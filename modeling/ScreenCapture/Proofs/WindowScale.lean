import ScreenCapture.Clock.Manual
import ScreenCapture.Display.InMemory
import ScreenCapture.Proofs.PointerReports
import ScreenCapture.Proofs.Stages

namespace ScreenCapture

variable {ω : Type} {h : Host ω}

theorem Topology.getD_scaleOf?_of_windowScale? {topology : Topology} {bounds : Rect} {scale : Scale}
    (hs : topology.windowScale? bounds = some scale) :
    (topology.scaleOf? bounds).getD scale = scale := by
  rw [windowScale?] at hs
  cases hat : topology.scaleOf? bounds with
  | none => rfl
  | some found =>
    rw [hat, Option.some_or] at hs
    exact Option.some.inj hs

theorem Reply.mem_pointers {replies : List Reply} {reply : Reply} (hr : reply ∈ replies)
    (hc : reply.call.IsPointers) : reply ∈ replies.filter (·.call.IsPointers) :=
  List.mem_filter.mpr ⟨hr, decide_eq_true hc⟩

namespace PointerOverlay

variable {topology : Topology} {rect : Rect} {placement : Placement} {pointer : PointerState}
  {made placed : List Reply} {spoken : List LogLine} {asked : WindowId} {bounds : Rect}

theorem Placing.pointer_notMem {result : Except (Failure CaptureError) Point}
    (hp : Placing topology rect pointer placement placed result) (answer : Result PointerState) :
    ⟨.pointer, answer⟩ ∉ placed := by
  intro hm
  cases hp <;> cases hm <;> contradiction

theorem Drawing.placing {result : Except (Failure CaptureError) Unit}
    (hd : Drawing topology rect placement made spoken result)
    (hp : ⟨.pointer, .ok pointer⟩ ∈ made) (hv : pointer.visible = true) :
    ∃ placed placing, Placing topology rect pointer placement placed placing ∧
      (∀ window answer, ⟨.windowRect window, answer⟩ ∈ made →
        ⟨.windowRect window, answer⟩ ∈ placed) ∧
      match placing with
      | .ok point => result ≠ .error .overflow ∧ pointer.line point ∈ spoken ∧
          drawnAt made = if point ∈ Rect.mk 0 0 rect.width rect.height then [point] else []
      | .error failure => result = .error failure ∧ drawnAt made = [] := by
  cases hd with
  | unasked => cases List.mem_singleton.mp hp
  | hidden hhidden =>
    cases List.mem_singleton.mp hp
    cases hv.symm.trans hhidden
  | unplaced _ hplacing =>
    cases (List.mem_cons.mp hp).resolve_right (hplacing.pointer_notMem _)
    exact ⟨_, _, hplacing, fun _ _ hw ↦ (List.mem_cons.mp hw).resolve_left nofun, rfl,
      hplacing.drawnAt_eq⟩
  | outside _ hplacing hout =>
    cases (List.mem_cons.mp hp).resolve_right (hplacing.pointer_notMem _)
    exact ⟨_, _, hplacing, fun _ _ hw ↦ (List.mem_cons.mp hw).resolve_left nofun, nofun,
      List.mem_singleton_self _, hplacing.drawnAt_eq.trans (if_neg hout).symm⟩
  | drawn answer _ hplacing hin =>
    have hearlier {reply : Reply} {point : Point} {replies : List Reply}
        (hr : reply ∈ replies ++ [⟨.drawPointer point, answer⟩])
        (hc : reply.call ≠ .drawPointer point) : reply ∈ replies :=
      (List.mem_append.mp hr).resolve_right fun hlast ↦
        hc (congrArg Reply.call (List.mem_singleton.mp hlast))
    cases (List.mem_cons.mp (hearlier hp nofun)).resolve_right (hplacing.pointer_notMem _)
    refine ⟨_, _, hplacing, fun _ _ hw ↦
      (List.mem_cons.mp (hearlier hw nofun)).resolve_left nofun, ?_, List.mem_singleton_self _,
      (hplacing.drawnAt_append _ _).trans (if_pos hin).symm⟩
    cases answer <;> exact nofun

theorem Drawing.visible_of_mem {result : Except (Failure CaptureError) Unit}
    (hd : Drawing topology rect placement made spoken result)
    (hp : ⟨.pointer, .ok pointer⟩ ∈ made) {reply : Reply} (hr : reply ∈ made)
    (hc : reply.call ≠ .pointer) : pointer.visible = true := by
  cases hd with
  | unasked | hidden =>
    cases List.mem_singleton.mp hr
    exact absurd rfl hc
  | unplaced hv hplacing | outside hv hplacing =>
    cases (List.mem_cons.mp hp).resolve_right (hplacing.pointer_notMem _)
    exact hv
  | drawn answer hv hplacing =>
    have hp' := (List.mem_append.mp hp).resolve_right fun hlast ↦ by
      cases List.mem_singleton.mp hlast
    cases (List.mem_cons.mp hp').resolve_right (hplacing.pointer_notMem _)
    exact hv

variable {window : WindowId} {scale : Scale}

theorem Placing.of_windowRect {result : Except (Failure CaptureError) Point}
    (hp : Placing topology rect pointer (.window window scale) placed result)
    (hw : ⟨.windowRect asked, .ok bounds⟩ ∈ placed) :
    let used := (topology.scaleOf? bounds).getD scale
    asked = window ∧ match pointer.onWindow? bounds.origin used rect with
      | some point => result = .ok point
      | none => result = .error .overflow := by
  intro used
  cases hp with
  | window _ hat =>
    cases List.mem_singleton.mp hw
    exact ⟨rfl, by rw [hat]⟩
  | offWindow _ hoff =>
    cases List.mem_singleton.mp hw
    exact ⟨rfl, by rw [hoff]⟩
  | lost => cases List.mem_singleton.mp hw

theorem Drawing.of_windowRect {result : Except (Failure CaptureError) Unit}
    (hd : Drawing topology rect (.window window scale) made spoken result)
    (hp : ⟨.pointer, .ok pointer⟩ ∈ made) (hw : ⟨.windowRect asked, .ok bounds⟩ ∈ made) :
    let used := (topology.scaleOf? bounds).getD scale
    asked = window ∧ match pointer.onWindow? bounds.origin used rect with
      | some point => pointer.line point ∈ spoken ∧
          drawnAt made = if point ∈ Rect.mk 0 0 rect.width rect.height then [point] else []
      | none => result = .error .overflow ∧ drawnAt made = [] := by
  intro used
  obtain ⟨placed, placing, hplacing, hrects, hshows⟩ :=
    hd.placing hp (hd.visible_of_mem hp hw nofun)
  obtain ⟨hasked, hplaced⟩ := hplacing.of_windowRect (hrects asked _ hw)
  refine ⟨hasked, ?_⟩
  cases hat : pointer.onWindow? bounds.origin used rect with
  | some point =>
    rw [hat] at hplaced
    subst hplaced
    exact hshows.2
  | none =>
    rw [hat] at hplaced
    subst hplaced
    exact hshows

end PointerOverlay

theorem Survey.of_window {topology : Topology} {window : WindowId} {surveyed : List Reply}
    {area : Rect} {scale? : Option Scale}
    (hs : Survey topology (.window window) surveyed (.ok (area, scale?))) :
    ∃ bounds client scale, surveyed =
        [⟨.windowRect window, .ok bounds⟩, ⟨.clientRect window, .ok client⟩] ∧
      topology.windowScale? bounds = some scale ∧ area = scale.mapRect client ∧
      scale? = some scale := by
  cases hs with
  | @scaled _ bounds client scale hscale => exact ⟨bounds, client, scale, rfl, hscale, rfl, rfl⟩

/-- What was asked about a window when it was opened, and what was made of the answers. -/
structure Session.OpenedOn (window : WindowId) (bounds client : Rect) (scale : Scale)
    (replies : List Reply) (session : Session) : Prop where
  bounds_asked : replies.filter (·.call.IsPointers) = [⟨.windowRect window, .ok bounds⟩]
  client_asked : ⟨.clientRect window, .ok client⟩ ∈ replies
  scale_found : session.topology.windowScale? bounds = some scale
  handle_eq : session.target.handle = .window window
  area_eq : session.target.area = scale.mapRect client
  windowScale_eq : session.target.windowScale = some scale

theorem Opening.openedOn {options : CaptureOptions} {title : String} {replies : List Reply}
    {session : Session} (ho : Opening options (.window title) replies (.ok session)) :
    ∃ window bounds client scale, session.OpenedOn window bounds client scale replies := by
  cases ho with
  | @opened _ _ _ glances _ _ _ _ hfound hplan houtlined hglances hfollows =>
    cases hfound with
    | found _ window =>
    cases hplan with
    | planned hsighted htargeted _ =>
    cases hsighted with
    | arranged _ =>
    cases htargeted with
    | resolved hsurvey _ =>
    obtain ⟨bounds, client, scale, rfl, hscale, rfl, rfl⟩ := hsurvey.of_window
    have hquiet : glances.filter (·.call.IsPointers) = [] := by
      refine List.filter_eq_nil_iff.mpr fun reply hreply ↦ ?_
      rcases hglances reply hreply with hcall | hcall <;> rw [hcall] <;> exact Bool.false_ne_true
    rw [if_neg nofun] at houtlined
    subst houtlined
    refine ⟨window, bounds, client, scale, ?_, ?_, ?_, ?_, ?_, ?_⟩
    · rw [List.filter_append, hquiet]
      rfl
    · simp
    · rw [hfollows.topology_eq]
      exact hscale
    all_goals rw [hfollows.target_eq]

namespace Session

inductive Places (target : ResolvedTarget) : Placement → Prop
  | desktop (scale : Scale) : target.handle = .desktop → Places target (.desktop scale)
  | window {window : WindowId} : target.handle = .window window →
    Places target (.window window (target.windowScale.getD .identity))

theorem Places.eq_window {target : ResolvedTarget} {placement : Placement}
    (hp : Places target placement) {window : WindowId} (hh : target.handle = .window window) :
    placement = .window window (target.windowScale.getD .identity) := by
  cases hp with
  | desktop _ hh' => cases hh.symm.trans hh'
  | window hh' =>
    cases hh.symm.trans hh'
    rfl

theorem placementOf_gives (target : ResolvedTarget) :
    Gives (placementOf h target) (Places target) := by
  unfold placementOf
  split
  · next hh => exact .bind (.any _) fun scale _ ↦ .pure (.desktop scale hh)
  · next hh => exact .pure (.window hh)

theorem start_overlay (options : CaptureOptions) (hm : options.drawMouse = true)
    (target : CaptureTarget) : Answers (start h options target) fun session ↦
      ∃ placement, Places session.target placement ∧ session.overlay = some (.new placement) := by
  refine start_answers_of fun topology resolved layout depth _ _ ↦ ?_
  refine .bind (P := fun overlay ↦ ∃ placement, Places resolved placement ∧
    overlay = some (.new placement)) ?_ ?_
  · unfold overlayOf
    rw [if_pos hm]
    exact (placementOf_gives resolved).bind fun placement hp ↦ .pure ⟨placement, hp, rfl⟩
  · exact fun overlay ho ↦ .bind (.any _) fun _ _ ↦ .bind (.any _) fun _ _ ↦ .pure ho

theorem Points.exists_drawing {session : Session} {placement : Placement}
    (ho : session.overlay.map PointerOverlay.placement = some placement) {made : List Reply}
    {told : List LogLine} {broken : Bool} (hp : session.Points made told broken) {reply : Reply}
    (hr : reply ∈ made) :
    ∃ said result, said <+: told ∧ (broken = true ↔ result = .error .overflow) ∧
      PointerOverlay.Drawing session.topology session.target.captureRect placement made said
        result := by
  cases hp with
  | idle => cases hr
  | drawn ho' hs =>
    obtain ⟨said, result, hsaid, hbroken, hd⟩ := hs.exists_drawing
    rw [← Option.some.inj (ho.symm.trans ho')] at hd
    exact ⟨said, result, hsaid, Option.isNone_iff_eq_none.trans hbroken, hd⟩

/-- A window is opened with the scale of the monitors that its bounds were on, or that of the first
monitor. In every later read the pointer is placed with the scale of the monitors that the window is
on then, or with the one that it was opened with; as long as its bounds are what they were, that is
the very scale with which the captured area was found. -/
theorem reads_keep_scale_of_window (h : Host ω) (options : CaptureOptions)
    (hm : options.drawMouse = true) (title : String) (w w₀ : ω) (session : Session)
    (hstart : start h options (.window title) w = (.ok session, w₀)) :
    ∃ window bounds client scale replies,
      start h.answered options (.window title) ⟨w, []⟩ = (.ok session, ⟨w₀, replies⟩) ∧
      session.OpenedOn window bounds client scale replies ∧
      ∀ steps, ∀ episode ∈ (session.run h steps w₀).1.1, ∀ patience,
        let watched := episode.before.read h.watched patience (.ofWorld episode.world)
        watched.1 = (episode.before.read h patience episode.world).1 ∧
        ∀ pointer asked current, ⟨.pointer, .ok pointer⟩ ∈ watched.2.replies →
          ⟨.windowRect asked, .ok current⟩ ∈ watched.2.replies →
          let rect := session.target.captureRect
          let used := (session.topology.scaleOf? current).getD scale
          asked = window ∧ (current = bounds → used = scale) ∧
            match pointer.onWindow? current.origin used rect with
            | some point => pointer.line point ∈ watched.2.lines ∧ drawnAt watched.2.replies =
                if point ∈ Rect.mk 0 0 rect.width rect.height then [point] else []
            | none => watched.1.1 = .overflow ∧ drawnAt watched.2.replies = [] := by
  have hrelated : h.answered.Related h (Agrees fun s w ↦ s.world = w) Call.Opens :=
    h.answered_related.mono fun _ _ ↦ trivial
  obtain ⟨hresult, hworld⟩ := start_related hrelated options (.window title) ⟨w, []⟩ w rfl
  obtain ⟨replies, hreplies, hopening⟩ := start_tells h options (.window title) ⟨w, []⟩
  have hsession : (start h.answered options (.window title) ⟨w, []⟩).1 = .ok session :=
    hresult.trans (congrArg Prod.fst hstart)
  have hfinal : (start h.answered options (.window title) ⟨w, []⟩).2.world = w₀ :=
    hworld.trans (congrArg Prod.snd hstart)
  have hopening : Opening options (.window title) replies (.ok session) := hsession ▸ hopening
  obtain ⟨window, bounds, client, scale, hopened⟩ := hopening.openedOn
  obtain ⟨placement, hplaces, hoverlay⟩ :=
    start_overlay options hm (.window title) w session (congrArg Prod.fst hstart)
  rw [hplaces.eq_window hopened.handle_eq, hopened.windowScale_eq, Option.getD_some] at hoverlay
  refine ⟨window, bounds, client, scale, replies,
    Prod.ext hsession (Answered.ext hfinal hreplies), hopened, fun steps episode he patience ↦ ?_⟩
  intro watched
  obtain ⟨hreading, told, htold, hpoints⟩ := points_of_episode he patience
  refine ⟨hreading, fun pointer asked current hpointer hcurrent ↦ ?_⟩
  intro rect used
  have hpointer := Reply.mem_pointers hpointer trivial
  obtain ⟨said, result, hsaid, hbroken, hd⟩ := hpoints.exists_drawing
    (congrArg (Option.map PointerOverlay.placement) hoverlay) hpointer
  obtain ⟨hasked, hshows⟩ := hd.of_windowRect hpointer (Reply.mem_pointers hcurrent trivial)
  refine ⟨hasked, ?_, ?_⟩
  · rintro rfl
    exact Topology.getD_scaleOf?_of_windowScale? hopened.scale_found
  · cases hat : pointer.onWindow? current.origin used rect with
    | some point =>
      rw [hat] at hshows
      rw [drawnAt_filter] at hshows
      exact ⟨htold.subset (hsaid.subset hshows.1), hshows.2⟩
    | none =>
      rw [hat] at hshows
      rw [drawnAt_filter] at hshows
      exact ⟨of_decide_eq_true (hbroken.mpr hshows.1), hshows.2⟩

end Session

def Reply.pointer? : Reply → Option PointerState
  | ⟨.pointer, .ok pointer⟩ => some pointer
  | _ => none

def Reply.bounds? : Reply → Option (WindowId × Rect)
  | ⟨.windowRect window, .ok bounds⟩ => some (window, bounds)
  | _ => none

theorem Reply.mem_of_pointer? {replies : List Reply} {pointer : PointerState}
    (hp : pointer ∈ replies.filterMap pointer?) : ⟨.pointer, .ok pointer⟩ ∈ replies := by
  obtain ⟨reply, hmem, hr⟩ := List.mem_filterMap.mp hp
  unfold pointer? at hr
  split at hr <;> cases hr
  exact hmem

theorem Reply.mem_of_bounds? {replies : List Reply} {window : WindowId} {bounds : Rect}
    (hb : (window, bounds) ∈ replies.filterMap bounds?) :
    ⟨.windowRect window, .ok bounds⟩ ∈ replies := by
  obtain ⟨reply, hmem, hr⟩ := List.mem_filterMap.mp hb
  unfold bounds? at hr
  split at hr <;> cases hr
  exact hmem

structure Sight where
  pointers : List PointerState
  bounds : List (WindowId × Rect)
  points : List Point
deriving DecidableEq

def Sight.of (replies : List Reply) : Sight :=
  ⟨replies.filterMap Reply.pointer?, replies.filterMap Reply.bounds?, drawnAt replies⟩

namespace Session

/-- A window off the only monitor, which has two pixels for each coordinate. -/
def distantWindow : MemoryDisplay :=
  { (MemoryDisplay.withMonitors
      [⟨⟨0, 0, 100, 100⟩, ⟨100, 100⟩, ⟨200, 200⟩, by decide, by decide⟩]).addWindow "editor"
        ⟨500, 500, 510, 510⟩ ⟨0, 0, 2, 1⟩ with
    pointer := ⟨true, ⟨501, 500⟩, ⟨0, 0⟩⟩ }

/-- A window in the gap below a monitor with two pixels and beside one with three pixels for each
coordinate. -/
def gapWindow : MemoryDisplay :=
  { (MemoryDisplay.withMonitors
      [⟨⟨0, 0, 100, 100⟩, ⟨100, 100⟩, ⟨200, 200⟩, by decide, by decide⟩,
        ⟨⟨200, 100, 300, 200⟩, ⟨100, 100⟩, ⟨300, 300⟩, by decide, by decide⟩]).addWindow "editor"
        ⟨40, 140, 60, 160⟩ ⟨0, 0, 2, 2⟩ with
    pointer := ⟨true, ⟨41, 141⟩, ⟨0, 0⟩⟩ }

def moveTo (bounds : Rect) : Step (World MemoryDisplay ManualClock) :=
  .drift fun w ↦ { w with screen := { w.screen with
    windows := w.screen.windows.map fun window ↦ { window with windowRect := bounds }
    pointer := ⟨true, ⟨bounds.left + 1, bounds.top + 1⟩, ⟨0, 0⟩⟩ } }

def seenIn (session : Session) (steps : List (Step (World MemoryDisplay ManualClock)))
    (w : World MemoryDisplay ManualClock) : List Sight :=
  let h := Host.assemble .inMemory .manual
  (session.run h steps w).1.1.map fun episode ↦
    .of (episode.before.read h.watched 3 (.ofWorld episode.world)).2.replies

structure Look where
  pointer : PointerState
  bounds : Rect
  point : Point

def Look.sight (look : Look) : Sight :=
  ⟨[look.pointer], [(⟨MemoryDisplay.firstHandle⟩, look.bounds)], []⟩

theorem map_points_eq {sights : List Sight} {looks : List Look}
    (hs : sights.map (fun sight ↦ { sight with points := [] }) = looks.map Look.sight)
    (hp : ∀ sight ∈ sights, ∀ look ∈ looks, sight.pointers = [look.pointer] →
      sight.bounds = [(⟨MemoryDisplay.firstHandle⟩, look.bounds)] → sight.points = [look.point]) :
    sights.map Sight.points = looks.map fun look ↦ [look.point] := by
  induction sights generalizing looks with
  | nil =>
    rw [List.map_eq_nil_iff.mp hs.symm]
    rfl
  | cons sight sights ih =>
    obtain ⟨look, looks, rfl, hlook, hrest⟩ := List.map_eq_cons_iff.mp hs.symm
    obtain ⟨hpointers, hbounds, -⟩ := Sight.mk.inj hlook.symm
    rw [List.map_cons, List.map_cons, ih hrest.symm fun sight hs look hl ↦
      hp sight (List.mem_cons_of_mem _ hs) look (List.mem_cons_of_mem _ hl),
      hp sight List.mem_cons_self look List.mem_cons_self hpointers hbounds]

/-- A window off the monitors has the scale of the first of them. One that was opened in a gap and is
moved has the scale of the monitor that it comes to, and off all monitors the one that it had at
first. -/
theorem reads_keep_scale_of_movedWindow :
    let h := Host.assemble .inMemory .manual
    let steps := [.read 3, moveTo ⟨240, 140, 260, 160⟩, .read 3, moveTo ⟨500, 500, 510, 510⟩,
      .read 3]
    (∃ session w₀,
      start h .standard (.window "editor") ⟨distantWindow, .startingAt 0⟩ = (.ok session, w₀) ∧
      session.topology.scaleOf? ⟨500, 500, 510, 510⟩ = none ∧
      session.target.captureRect = ⟨0, 0, 4, 2⟩ ∧
      (session.seenIn [.read 3] w₀).map Sight.points = [[⟨2, 0⟩]]) ∧
    ∃ session w₀,
      start h .standard (.window "editor") ⟨gapWindow, .startingAt 0⟩ = (.ok session, w₀) ∧
      session.topology.scaleOf? ⟨40, 140, 60, 160⟩ = session.target.windowScale ∧
      session.target.captureRect = ⟨0, 0, 4, 6⟩ ∧
      (session.seenIn steps w₀).map Sight.points = [[⟨2, 3⟩], [⟨3, 3⟩], [⟨2, 3⟩]] := by
  intro h steps
  have hkept (w : World MemoryDisplay ManualClock) (topology : Topology) (target : ResolvedTarget)
      (scale : Scale) (hscale : target.windowScale = some scale)
      (steps : List (Step (World MemoryDisplay ManualClock))) (looks : List Look)
      (hlooks : ∀ look ∈ looks, look.pointer.onWindow? look.bounds.origin
          ((topology.scaleOf? look.bounds).getD scale) target.captureRect = some look.point ∧
        look.point ∈ Rect.mk 0 0 target.captureRect.width target.captureRect.height)
      (heval : (start h .standard (.window "editor") w).1.toOption.map (fun session ↦
        (session.topology, session.target, (session.seenIn steps
          (start h .standard (.window "editor") w).2).map fun sight ↦
            { sight with points := [] })) =
        some (topology, target, looks.map Look.sight)) :
      ∃ session w₀, start h .standard (.window "editor") w = (.ok session, w₀) ∧
        session.topology = topology ∧ session.target = target ∧
        (session.seenIn steps w₀).map Sight.points = looks.map fun look ↦ [look.point] := by
    obtain ⟨session, w₀, hstart, hseen⟩ := exists_started (h := h) .standard (.window "editor") w
      (f := fun session w₀ ↦ (session.topology, session.target,
        (session.seenIn steps w₀).map fun sight ↦ { sight with points := [] })) heval
    obtain ⟨htopology, hseen⟩ := Prod.mk.inj hseen
    obtain ⟨htarget, hseen'⟩ := Prod.mk.inj hseen
    subst htopology htarget
    refine ⟨session, w₀, hstart, rfl, rfl, map_points_eq hseen' ?_⟩
    intro sight hs look hl hp hb
    obtain ⟨_, _, _, scale', _, -, hopened, hreads⟩ :=
      reads_keep_scale_of_window h .standard rfl "editor" w w₀ session hstart
    obtain rfl : scale' = scale := Option.some.inj (hopened.windowScale_eq.symm.trans hscale)
    obtain ⟨episode, he, rfl⟩ := List.mem_map.mp hs
    obtain ⟨-, hreplies⟩ := hreads steps episode he 3
    obtain ⟨-, -, hshows⟩ := hreplies _ _ _
      (Reply.mem_of_pointer? (hp ▸ List.mem_singleton_self _))
      (Reply.mem_of_bounds? (hb ▸ List.mem_singleton_self _))
    obtain ⟨hat, hin⟩ := hlooks look hl
    rw [hat] at hshows
    exact hshows.2.trans (if_pos hin)
  constructor
  · let scale : Scale := ⟨⟨100, 100⟩, ⟨200, 200⟩, by decide, by decide⟩
    obtain ⟨session, w₀, hstart, htopology, htarget, hdrawn⟩ :=
      hkept ⟨distantWindow, .startingAt 0⟩ ⟨distantWindow.monitors⟩
        ⟨.window ⟨0x1000⟩, ⟨0, 0, 4, 2⟩, ⟨0, 0, 4, 2⟩, some scale⟩ scale rfl [.read 3]
        [⟨⟨true, ⟨501, 500⟩, ⟨0, 0⟩⟩, ⟨500, 500, 510, 510⟩, ⟨2, 0⟩⟩] (by decide)
        (by decide +kernel)
    refine ⟨session, w₀, hstart, ?_, congrArg ResolvedTarget.captureRect htarget, hdrawn⟩
    rw [htopology]
    decide
  · let scale : Scale := ⟨⟨100, 100⟩, ⟨200, 300⟩, by decide, by decide⟩
    obtain ⟨session, w₀, hstart, htopology, htarget, hdrawn⟩ :=
      hkept ⟨gapWindow, .startingAt 0⟩ ⟨gapWindow.monitors⟩
        ⟨.window ⟨0x1000⟩, ⟨0, 0, 4, 6⟩, ⟨0, 0, 4, 6⟩, some scale⟩ scale rfl steps
        [⟨⟨true, ⟨41, 141⟩, ⟨0, 0⟩⟩, ⟨40, 140, 60, 160⟩, ⟨2, 3⟩⟩,
          ⟨⟨true, ⟨241, 141⟩, ⟨0, 0⟩⟩, ⟨240, 140, 260, 160⟩, ⟨3, 3⟩⟩,
          ⟨⟨true, ⟨501, 501⟩, ⟨0, 0⟩⟩, ⟨500, 500, 510, 510⟩, ⟨2, 3⟩⟩] (by decide)
        (by decide +kernel)
    refine ⟨session, w₀, hstart, ?_, congrArg ResolvedTarget.captureRect htarget, hdrawn⟩
    rw [htopology, htarget]
    decide

end Session

end ScreenCapture

import ScreenCapture.Proofs.CheckedCoordinates
import ScreenCapture.Proofs.WindowScale

namespace ScreenCapture

open Coordinate

variable {ω : Type}

/-- The monitors and the screen that they make up are asked about. -/
def Call.IsOutlook : Call → Prop
  | monitors | virtualScreen => True
  | _ => False

/-- The screen that is to be mapped is on the monitors, but its last pixel has no coordinates. -/
def Endless (replies : List Reply) : Prop :=
  ∃ monitors screen, ⟨.monitors, .ok monitors⟩ ∈ replies ∧
    ⟨.virtualScreen, .ok screen⟩ ∈ replies ∧
    (Topology.mk monitors).locate? screen.origin ≠ none ∧ ¬ screen.LastInRange

section

variable {topology : Topology} {handle : TargetHandle} {request : CaptureRequest} {depth : Nat}
  {target : CaptureTarget} {replies : List Reply} {monitors : List Monitor} {screen : Rect}

theorem Search.not_isOutlook {result : Result TargetHandle} (hs : Search target replies result) :
    ∀ reply ∈ replies, ¬ reply.call.IsOutlook := by
  cases hs <;> simp [Call.IsOutlook]

theorem Survey.call_ne_monitors {result : Except (Failure CaptureError) (Rect × Option Scale)}
    (hs : Survey topology handle replies result) : ∀ reply ∈ replies, reply.call ≠ .monitors := by
  cases hs <;> simp

theorem Targeting.call_ne_monitors {result : Except (Failure CaptureError) ResolvedTarget}
    (ht : Targeting request topology handle depth replies result) :
    ∀ reply ∈ replies, reply.call ≠ .monitors := by
  cases ht with
  | unsurveyed hs | unselected hs _ | resolved hs _ => exact hs.call_ne_monitors

theorem Sighting.call_eq {result : Result Topology} (hs : Sighting replies result) :
    ∀ reply ∈ replies, reply.call = .monitors := by
  cases hs <;> simp

theorem Sighting.topology_eq {looked : List Reply} (hs : Sighting replies (.ok topology))
    (hl : ∀ reply ∈ looked, reply.call ≠ .monitors)
    (hm : ⟨.monitors, .ok monitors⟩ ∈ replies ++ looked) : topology = ⟨monitors⟩ := by
  rcases List.mem_append.mp hm with hm | hm
  · cases hs with
    | arranged _ =>
      cases List.mem_singleton.mp hm
      rfl
  · exact absurd rfl (hl _ hm)

theorem mem_planned {found planned rest : List Reply} (hf : ∀ reply ∈ found, ¬ reply.call.IsOutlook)
    (hrest : ∀ reply ∈ rest, ¬ reply.call.IsOutlook) {reply : Reply} (ho : reply.call.IsOutlook)
    (hr : reply ∈ found ++ ⟨.openSource handle, .ok ()⟩ :: ⟨.depth, depth⟩ :: planned ++ rest) :
    reply ∈ planned := by
  rcases List.mem_append.mp hr with hr | hr
  · rcases List.mem_append.mp hr with hr | hr
    · exact absurd ho (hf reply hr)
    · rcases List.mem_cons.mp hr with rfl | hr
      · exact ho.elim
      · rcases List.mem_cons.mp hr with rfl | hr
        · exact ho.elim
        · exact hr
  · exact absurd ho (hrest reply hr)

section

variable (hfirst : topology.locate? screen.origin ≠ none) (hl : ¬ screen.LastInRange)
include hfirst hl

theorem Topology.Mapping.eq_overflow {result : Except (Failure CaptureError) Rect}
    (hm : topology.Mapping screen result) : result = .error .overflow := by
  cases hm with
  | startUnmapped hnone => exact absurd hnone hfirst
  | endless => rfl
  | endUnmapped _ hl' | mapped _ hl' => exact absurd hl' hl

theorem Survey.eq_overflow {result : Except (Failure CaptureError) (Rect × Option Scale)}
    (hs : Survey topology handle replies result) (hm : ⟨.virtualScreen, .ok screen⟩ ∈ replies) :
    result = .error .overflow := by
  have hcall := List.mem_map_of_mem (f := Reply.call) hm
  cases hs with
  | screenless error => cases List.mem_singleton.mp hm
  | unmapped hmapping =>
    cases List.mem_singleton.mp hm
    rw [Except.error.inj (hmapping.eq_overflow hfirst hl)]
  | mapped hmapping =>
    cases List.mem_singleton.mp hm
    cases hmapping.eq_overflow hfirst hl
  | boundless | clientless | scaled => simp at hcall

theorem Targeting.eq_overflow {result : Except (Failure CaptureError) ResolvedTarget}
    (ht : Targeting request topology handle depth replies result)
    (hm : ⟨.virtualScreen, .ok screen⟩ ∈ replies) : result = .error .overflow := by
  cases ht with
  | unsurveyed hs => rw [Except.error.inj (hs.eq_overflow hfirst hl hm)]
  | unselected hs _ | resolved hs _ => cases hs.eq_overflow hfirst hl hm

end

theorem Planning.eq_overflow {result : Except (Failure CaptureError) Plan}
    (hp : Planning request handle depth replies result) (he : Endless replies) :
    result = .error .overflow := by
  obtain ⟨monitors, screen, hm, hs, hfirst, hl⟩ := he
  have hlooked {sighted looked : List Reply} {sighting : Result Topology}
      (hsighted : Sighting sighted sighting)
      (hs : ⟨.virtualScreen, .ok screen⟩ ∈ sighted ++ looked) :
      ⟨.virtualScreen, .ok screen⟩ ∈ looked :=
    (List.mem_append.mp hs).resolve_left fun hmem ↦ by cases hsighted.call_eq _ hmem
  cases hp with
  | unsighted hsighted => cases hsighted.call_eq _ hs
  | unresolved hsighted ht =>
    obtain rfl := hsighted.topology_eq ht.call_ne_monitors hm
    rw [Except.error.inj (ht.eq_overflow hfirst hl (hlooked hsighted hs))]
  | oversized hsighted ht _ | planned hsighted ht _ =>
    obtain rfl := hsighted.topology_eq ht.call_ne_monitors hm
    cases ht.eq_overflow hfirst hl (hlooked hsighted hs)

theorem Planning.endless (hp : Planning request handle depth replies (.error .overflow)) :
    Endless replies := by
  generalize hr : (Except.error .overflow : Except (Failure CaptureError) Plan) = result at hp
  cases hp with
  | unsighted | oversized | planned => cases hr
  | unresolved hsighted ht =>
    cases hr
    cases ht with
    | unsurveyed hs =>
      cases hsighted
      cases hs with
      | unmapped hmapping =>
        cases hmapping with
        | endless hfirst hl =>
          exact ⟨_, _, List.mem_append_left _ (List.mem_singleton_self _),
            List.mem_append_right _ (List.mem_singleton_self _), hfirst, hl⟩

theorem Endless.mono {planned : List Reply} (he : Endless planned)
    (hm : ∀ reply ∈ planned, reply ∈ replies) : Endless replies := by
  obtain ⟨monitors, screen, hmonitors, hscreen, hfirst, hl⟩ := he
  exact ⟨monitors, screen, hm _ hmonitors, hm _ hscreen, hfirst, hl⟩

theorem Endless.planned {found planned rest : List Reply}
    (he : Endless (found ++ ⟨.openSource handle, .ok ()⟩ :: ⟨.depth, depth⟩ :: planned ++ rest))
    (hf : ∀ reply ∈ found, ¬ reply.call.IsOutlook)
    (hrest : ∀ reply ∈ rest, ¬ reply.call.IsOutlook) : Endless planned := by
  obtain ⟨monitors, screen, hm, hs, hfirst, hl⟩ := he
  exact ⟨monitors, screen, mem_planned hf hrest trivial hm, mem_planned hf hrest trivial hs,
    hfirst, hl⟩

section

variable {options : CaptureOptions}

theorem Opening.endless (ho : Opening options target replies (.error .overflow)) :
    Endless replies := by
  generalize hr : (Except.error .overflow : Except (Failure CaptureError) Session) = result at ho
  cases ho with
  | unfound | unopened | unallocated | unoutlined | opened => cases hr
  | unplanned hf hp =>
    cases hr
    exact hp.endless.mono fun reply hreply ↦ by simp [hreply]

/-- Whatever stands around the looks at the monitors and at the screen asks about neither. -/
theorem Opening.eq_overflow {result : Except (Failure CaptureError) Session}
    (ho : Opening options target replies result) (he : Endless replies) :
    result = .error .overflow := by
  cases ho with
  | unfound hf =>
    obtain ⟨_, _, hm, -⟩ := he
    exact absurd trivial (hf.not_isOutlook _ hm)
  | unopened error hf =>
    obtain ⟨_, _, hm, -⟩ := he
    rcases List.mem_append.mp hm with hm | hm
    · exact absurd trivial (hf.not_isOutlook _ hm)
    · cases List.mem_singleton.mp hm
  | unplanned hf hp =>
    have hplanned := he.planned hf.not_isOutlook (by simp [Call.IsOutlook])
    rw [Except.error.inj (hp.eq_overflow hplanned)]
  | unallocated error hf hp | unoutlined error hf hp _ _ =>
    cases hp.eq_overflow (he.planned hf.not_isOutlook (by simp [Call.IsOutlook]))
  | @opened _ _ outlined glances _ _ plan _ hf hp houtlined hglances =>
    have hrest : ∀ reply ∈ ⟨.allocateSurface plan.layout, .ok ()⟩ :: outlined ++ glances,
        ¬ reply.call.IsOutlook := by
      intro reply hreply
      rcases List.mem_append.mp hreply with hreply | hreply
      · rw [houtlined] at hreply
        split at hreply <;> simp at hreply <;> rcases hreply with rfl | rfl <;> exact id
      · rcases hglances reply hreply with hcall | hcall <;> rw [hcall] <;> exact id
    rw [List.append_assoc] at he
    cases hp.eq_overflow (he.planned hf.not_isOutlook hrest)

end

end

namespace Session

/-- By the answers to a read of the session, some difference on the way to the place of the pointer
is no coordinate. -/
inductive Overruns (session : Session) (replies : List Reply) : Prop
  | onDesktop {scale : Scale} {pointer : PointerState} :
    session.overlay.map PointerOverlay.placement = some (.desktop scale) →
    ⟨.pointer, .ok pointer⟩ ∈ replies → pointer.visible = true →
    ¬ pointer.StaysOnDesktop scale session.target.captureRect → Overruns session replies
  | onWindow {window : WindowId} {scale : Scale} {pointer : PointerState} {bounds : Rect} :
    session.overlay.map PointerOverlay.placement = some (.window window scale) →
    ⟨.pointer, .ok pointer⟩ ∈ replies → ⟨.windowRect window, .ok bounds⟩ ∈ replies →
    ¬ pointer.StaysOnWindow bounds.origin session.target.captureRect → Overruns session replies

variable {session : Session} {made replies : List Reply} {told : List LogLine} {broken : Bool}

theorem Overruns.mono (ho : session.Overruns made)
    (hm : ∀ reply ∈ made, reply.call.IsPointers → reply ∈ replies) : session.Overruns replies := by
  cases ho with
  | onDesktop ho hp hv hs => exact .onDesktop ho (hm _ hp trivial) hv hs
  | onWindow ho hp hb hs => exact .onWindow ho (hm _ hp trivial) (hm _ hb trivial) hs

theorem Points.broken_of_overruns (hp : session.Points made told broken)
    (ho : session.Overruns made) : broken = true := by
  cases ho with
  | onDesktop ho hpointer hv hs =>
    obtain ⟨said, result, -, hbroken, hd⟩ := hp.exists_drawing ho hpointer
    obtain ⟨placed, placing, hplacing, -, hshows⟩ := hd.placing hpointer hv
    cases hplacing with
    | desktop hat =>
      rw [PointerState.onDesktop?_eq_none.mpr hs] at hat
      cases hat
    | offDesktop => exact hbroken.mpr hshows.1
  | onWindow ho hpointer hb hs =>
    obtain ⟨said, result, -, hbroken, hd⟩ := hp.exists_drawing ho hpointer
    obtain ⟨-, hshows⟩ := hd.of_windowRect hpointer hb
    rw [PointerState.onWindow?_eq_none.mpr hs] at hshows
    exact hbroken.mpr hshows.1

theorem Points.overruns_of_broken (hp : session.Points made told true) : session.Overruns made := by
  generalize hb : true = broken at hp
  cases hp with
  | idle => cases hb
  | drawn ho hs =>
    obtain ⟨said, result, -, hbroken, hd⟩ := hs.exists_drawing
    cases hbroken.mp (Option.isNone_iff_eq_none.mp hb.symm)
    generalize hr : (Except.error .overflow : Except (Failure CaptureError) Unit) = result at hd
    generalize hplace : PointerOverlay.placement _ = placement at ho hd
    cases hd with
    | unasked | hidden | outside => cases hr
    | drawn answer => cases answer <;> cases hr
    | unplaced hv hplacing =>
      cases hr
      cases hplacing with
      | offDesktop hoff =>
        exact .onDesktop ho List.mem_cons_self hv (PointerState.onDesktop?_eq_none.mp hoff)
      | offWindow window hoff =>
        exact .onWindow ho List.mem_cons_self (List.mem_cons_of_mem _ (List.mem_singleton_self _))
          (PointerState.onWindow?_eq_none.mp hoff)

theorem Measured.captureRect_inRange {options : CaptureOptions}
    (hm : Measured options session) : session.target.captureRect.InRange := by
  obtain ⟨⟨hleft, htop, hright, hbottom⟩, hselect⟩ := hm.selected
  obtain ⟨hencloses, hempty⟩ := hm.selected.fits
  obtain ⟨hcolumns, hrows⟩ := Rect.lt_of_not_isEmpty hempty
  simp only [Rect.Encloses] at hencloses
  simp only [Rect.InRange, Coordinate.InRange] at *
  omega

end Session

/-- Neither number is larger than a quarter of the greatest coordinate. -/
def Point.IsNear (p : Point) : Prop := p.x.natAbs ≤ 0x1fffffff ∧ p.y.natAbs ≤ 0x1fffffff

instance (p : Point) : Decidable p.IsNear := inferInstanceAs (Decidable (_ ∧ _))

namespace PointerState

theorem stays_of_near {v : Int} {l : List Int} (hv : v.natAbs ≤ 0x1fffffff)
    (hl : ∀ a ∈ l, a.natAbs ≤ 0x1fffffff) (hlength : l.length ≤ 3) : Stays v l :=
  stays_of_natAbs_le hv hl (by omega)

variable {pointer : PointerState} {rect : Rect} (hh : pointer.hotspot.IsNear)
  (hr : rect.origin.IsNear)
include hh hr

theorem staysOnDesktop_of_near {scale : Scale}
    (hp : Point.IsNear ⟨scale.x pointer.position.x, scale.y pointer.position.y⟩) :
    pointer.StaysOnDesktop scale rect := by
  refine ⟨stays_of_near hp.1 ?_ (by simp), stays_of_near hp.2 ?_ (by simp)⟩
  · simpa using ⟨hr.1, hh.1⟩
  · simpa using ⟨hr.2, hh.2⟩

theorem staysOnWindow_of_near {origin : Point} (hp : pointer.position.IsNear)
    (ho : origin.IsNear) : pointer.StaysOnWindow origin rect := by
  refine ⟨stays_of_near hp.1 ?_ (by simp), stays_of_near hp.2 ?_ (by simp)⟩
  · simpa using ⟨hr.1, hh.1, ho.1⟩
  · simpa using ⟨hr.2, hh.2, ho.2⟩

end PointerState

namespace Session

/-- An opening breaks off if the desktop has its first pixel on the monitors and its right or lower
end at the least coordinate. A read breaks off if one of the differences on the way to the place of
the pointer leaves the range of coordinates, which none does as long as their numbers are moderate.
The center of a window is always a point. -/
theorem breaks_off_iff_leaves_range (h : Host ω) (options : CaptureOptions)
    (target : CaptureTarget) (w : ω) :
    let opening := start h.answered options target ⟨w, []⟩
    (opening.1 = (start h options target w).1 ∧
      (opening.1 = .error .overflow ↔ Endless opening.2.replies)) ∧
    (∀ screen : Rect, screen.InRange →
      (¬ screen.LastInRange ↔ screen.right = least ∨ screen.bottom = least)) ∧
    (∀ bounds : Rect, bounds.InRange → bounds.center? = some bounds.center) ∧
    ∀ session w₀, start h options target w = (.ok session, w₀) →
      let rect := session.target.captureRect
      rect.InRange ∧
      (∀ (pointer : PointerState) (scale : Scale), pointer.hotspot.IsNear → rect.origin.IsNear →
        Point.IsNear ⟨scale.x pointer.position.x, scale.y pointer.position.y⟩ →
        pointer.StaysOnDesktop scale rect) ∧
      (∀ (pointer : PointerState) (origin : Point), pointer.hotspot.IsNear → rect.origin.IsNear →
        pointer.position.IsNear → origin.IsNear → pointer.StaysOnWindow origin rect) ∧
      ∀ steps, ∀ episode ∈ (session.run h steps w₀).1.1, ∀ patience,
        let watched := episode.before.read h.watched patience (.ofWorld episode.world)
        watched.1 = (episode.before.read h patience episode.world).1 ∧
        (watched.1.1 = .overflow ↔ session.Overruns watched.2.replies) := by
  intro opening
  have hrelated : h.answered.Related h (Agrees fun s w ↦ s.world = w) Call.Opens :=
    h.answered_related.mono fun _ _ ↦ trivial
  have hresult : opening.1 = (start h options target w).1 :=
    (start_related hrelated options target ⟨w, []⟩ w rfl).1
  obtain ⟨replies, hreplies, hopening⟩ := start_tells h options target ⟨w, []⟩
  have hreplies : opening.2.replies = replies := hreplies
  refine ⟨⟨hresult, fun hoff ↦ ?_, fun he ↦ hopening.eq_overflow (hreplies ▸ he)⟩,
    fun screen hr ↦ ?_, fun _ hr ↦ Rect.center?_eq_some hr, fun session w₀ hstart ↦ ?_⟩
  · rw [hreplies]
    exact Opening.endless (hoff ▸ hopening)
  · rw [Rect.lastInRange_iff hr]
    simp only [Rect.InRange, InRange] at hr
    omega
  intro rect
  refine ⟨?_, fun _ _ hh hr hp ↦ PointerState.staysOnDesktop_of_near hh hr hp,
    fun _ _ hh hr hp ho ↦ PointerState.staysOnWindow_of_near hh hr hp ho,
    fun steps episode he patience ↦ ?_⟩
  · exact (start_measured options target w session (congrArg Prod.fst hstart)).captureRect_inRange
  intro watched
  obtain ⟨hreading, told, -, hpoints⟩ := points_of_episode he patience
  refine ⟨hreading, fun hoff ↦ ?_, fun hover ↦ ?_⟩
  · rw [decide_eq_true hoff] at hpoints
    exact hpoints.overruns_of_broken.mono fun reply hm _ ↦ (List.mem_filter.mp hm).1
  · exact of_decide_eq_true (hpoints.broken_of_overruns (hover.mono fun reply ↦ Reply.mem_pointers))

def smallScale : Scale := ⟨⟨4, 2⟩, ⟨4, 2⟩, by decide, by decide⟩

def smallDesktop (pointer : PointerState) : World MemoryDisplay ManualClock :=
  ⟨{ MemoryDisplay.withMonitors [⟨⟨-2, 0, 2, 2⟩, smallScale⟩] with pointer }, .startingAt 0⟩

/-- The desktop begins on the monitor and ends above it, where the coordinates begin. -/
def sunkenDesktop : Host (World MemoryDisplay ManualClock) :=
  { Host.assemble .inMemory .manual with
    virtualScreen := fun w ↦ (.ok ⟨-2, 0, 2, least⟩, w) }

theorem breaks_off_iff_leaves_range_smallDesktop :
    let h := Host.assemble .inMemory .manual
    let pointer : PointerState := ⟨true, ⟨1, 1⟩, ⟨0, 0⟩⟩
    let rect : Rect := ⟨-2, 0, 2, 2⟩
    (start sunkenDesktop.answered .standard .desktop ⟨smallDesktop pointer, []⟩).1 =
      .error .overflow ∧
    rect.center? = some rect.center ∧
    ∃ session w₀, start h .standard .desktop (smallDesktop pointer) = (.ok session, w₀) ∧
      session.target.captureRect = rect ∧ pointer.StaysOnDesktop smallScale rect ∧
      pointer.StaysOnWindow ⟨1, 1⟩ rect ∧ (session.read h 3 w₀).1.1 ≠ .overflow := by
  intro h pointer rect
  have hsunken := breaks_off_iff_leaves_range sunkenDesktop .standard .desktop
    (smallDesktop pointer)
  obtain ⟨-, hcenter, hsessions⟩ := (breaks_off_iff_leaves_range h .standard .desktop
    (smallDesktop pointer)).2
  have hlast := (hsunken.2.1 ⟨-2, 0, 2, least⟩ (by decide)).mpr (.inr rfl)
  have hendless : Endless (start sunkenDesktop.answered .standard .desktop
      ⟨smallDesktop pointer, []⟩).2.replies :=
    ⟨[⟨rect, smallScale⟩], ⟨-2, 0, 2, least⟩, List.mem_of_getElem? (i := 2) rfl,
      List.mem_of_getElem? (i := 3) rfl, by decide, hlast⟩
  refine ⟨hsunken.1.2.mpr hendless, hcenter rect (by decide), ?_⟩
  obtain ⟨session, w₀, hstart, hseen⟩ := exists_started (h := h) .standard .desktop
    (smallDesktop pointer)
    (f := fun session w₀ ↦ (session.overlay.map PointerOverlay.placement,
      session.target.captureRect, Sight.of (session.read h.watched 3 (.ofWorld w₀)).2.replies))
    (a := (some (.desktop smallScale), rect, ⟨[pointer], [], [⟨3, 1⟩]⟩)) (by decide +kernel)
  obtain ⟨hplacement, hseen⟩ := Prod.mk.inj hseen
  obtain ⟨hrect, hsight⟩ := Prod.mk.inj hseen
  obtain ⟨-, hdesktop, hwindow, hreads⟩ := hsessions session w₀ hstart
  obtain ⟨hresult, hiff⟩ := hreads [.read 3] _ List.mem_cons_self 3
  rw [hrect] at hdesktop hwindow
  have hstays := hdesktop pointer smallScale (by decide) (by decide) (by decide)
  refine ⟨session, w₀, hstart, hrect, hstays,
    hwindow pointer ⟨1, 1⟩ (by decide) (by decide) (by decide) (by decide), fun hoff ↦ ?_⟩
  cases hiff.mp ((congrArg Prod.fst hresult).trans hoff) with
  | @onDesktop _ seen ho hp hv hs =>
    cases hplacement.symm.trans ho
    have hmem : seen ∈ (Sight.of (session.read h.watched 3 (.ofWorld w₀)).2.replies).pointers :=
      List.mem_filterMap.mpr ⟨_, hp, rfl⟩
    rw [hsight] at hmem
    obtain rfl := List.mem_singleton.mp hmem
    exact hs (hrect ▸ hstays)
  | onWindow ho hp hb hs => cases hplacement.symm.trans ho

/-- A pointer as far to the right as it can be, whose hot spot is as far away from its corner: the
first difference for it is no coordinate, although the corner is on the desktop. -/
theorem far_pointer_leaves_range :
    let h := Host.assemble .inMemory .manual
    let pointer : PointerState := ⟨true, ⟨2147483647, 1⟩, ⟨2147483647, 0⟩⟩
    let rect : Rect := ⟨-2, 0, 2, 2⟩
    (∀ v ∈ [pointer.position.x, pointer.position.y, pointer.hotspot.x, pointer.hotspot.y],
      InRange v) ∧
    ∃ session w₀, start h .standard .desktop (smallDesktop pointer) = (.ok session, w₀) ∧
      session.target.captureRect = rect ∧ (session.read h 3 w₀).1.1 = .overflow := by
  intro h pointer rect
  refine ⟨by decide, ?_⟩
  obtain ⟨session, w₀, hstart, hseen⟩ := exists_started (h := h) .standard .desktop
    (smallDesktop pointer) (f := fun session w₀ ↦
      (session.target.captureRect, decide ((session.read h 3 w₀).1.1 = .overflow)))
    (a := (rect, true)) (by decide +kernel)
  obtain ⟨hrect, hoff⟩ := Prod.mk.inj hseen
  exact ⟨session, w₀, hstart, hrect, of_decide_eq_true hoff⟩

end Session

end ScreenCapture

import ScreenCapture.Proofs.CaptureSize
import ScreenCapture.Proofs.PointerDrawing
import ScreenCapture.Proofs.Run

namespace ScreenCapture

variable {ω : Type}

/-- What was to be done for the pointer failed. -/
inductive Reply.IsFailure : Reply → Prop
  | pointer (error : CaptureError) : IsFailure ⟨.pointer, .error error⟩
  | windowRect (window : WindowId) (error : CaptureError) :
    IsFailure ⟨.windowRect window, .error error⟩
  | drawPointer (point : Point) (error : CaptureError) :
    IsFailure ⟨.drawPointer point, .error error⟩

def Call.point? : Call → Option Point
  | drawPointer point => some point
  | _ => none

/-- Where the pointer was drawn. -/
def drawnAt (replies : List Reply) : List Point := replies.filterMap fun reply ↦ reply.call.point?

def LogLine.IsWarning (line : LogLine) : Prop := line.severity = .warn

instance (line : LogLine) : Decidable line.IsWarning := inferInstanceAs (Decidable (_ = _))

/-- What the world does by itself before a call to draw the pointer, and what is passed to it. -/
structure DrawRequest (ω : Type) where
  change : ω → ω
  topology : Topology
  rect : Rect

/-- A call to draw the pointer, with the world and the overlay that it found and the overlay that it
left, if it did not break off. -/
structure Drawn (ω : Type) where
  world : ω
  before : PointerOverlay
  topology : Topology
  rect : Rect
  left? : Option PointerOverlay

namespace Drawn

variable (h : Host ω) (d : Drawn ω)

def after : PointerOverlay := d.left?.getD d.before

def watched : Option PointerOverlay × Watched ω :=
  d.before.draw h.watched d.topology d.rect (.ofWorld d.world)

def replies : List Reply := (d.watched h).2.replies

def warnings : List LogLine := (d.watched h).2.lines.filter LogLine.IsWarning

def Fails : Prop := ∃ reply ∈ d.replies h, reply.IsFailure

end Drawn

def PointerOverlay.draws (h : Host ω) (overlay : PointerOverlay) :
    List (DrawRequest ω) → StateM ω (List (Drawn ω) × PointerOverlay)
  | [] => return ([], overlay)
  | request :: requests => do
    modify request.change
    let world ← get
    let left? ← overlay.draw h request.topology request.rect
    let drawn : Drawn ω := ⟨world, overlay, request.topology, request.rect, left?⟩
    let (later, last) ← draws h drawn.after requests
    return (drawn :: later, last)

/-- The pointer is asked for once, it is drawn at most once, and that only where it is visible, can
be placed, and has its corner in the rectangle. -/
structure DrawnProperly (placement : Placement) (rect : Rect) (replies : List Reply) : Prop where
  asked_once : (replies.filter (·.call = .pointer)).length = 1
  drawn_once : (drawnAt replies).length ≤ 1
  visible : ∀ point ∈ drawnAt replies,
    ∃ pointer : PointerState, ⟨.pointer, .ok pointer⟩ ∈ replies ∧ pointer.visible = true
  placed : ∀ point ∈ drawnAt replies, ∀ window scale, placement = .window window scale →
    ∃ bounds, ⟨.windowRect window, .ok bounds⟩ ∈ replies
  inside : ∀ point ∈ drawnAt replies,
    (0 ≤ point.x ∧ point.x < rect.width) ∧ 0 ≤ point.y ∧ point.y < rect.height

theorem DrawnProperly.of_undrawn {placement : Placement} {rect : Rect} {replies : List Reply}
    (ha : (replies.filter (·.call = .pointer)).length = 1) (hd : drawnAt replies = []) :
    DrawnProperly placement rect replies where
  asked_once := ha
  drawn_once := hd ▸ Nat.zero_le 1
  visible := hd ▸ List.forall_mem_nil _
  placed := hd ▸ List.forall_mem_nil _
  inside := hd ▸ List.forall_mem_nil _

namespace PointerOverlay

variable {topology : Topology} {rect : Rect} {overlay : PointerOverlay}
  {left? : Option PointerOverlay} {placement : Placement} {pointer : PointerState}
  {made placed : List Reply} {spoken : List LogLine}

theorem Placing.filter_pointer {result : Except (Failure CaptureError) Point}
    (hp : Placing topology rect pointer placement placed result) :
    placed.filter (·.call = .pointer) = [] := by
  cases hp <;> rfl

theorem Placing.drawnAt_eq {result : Except (Failure CaptureError) Point}
    (hp : Placing topology rect pointer placement placed result) : drawnAt placed = [] := by
  cases hp <;> rfl

theorem Placing.drawnAt_append {result : Except (Failure CaptureError) Point}
    (hp : Placing topology rect pointer placement placed result) (point : Point)
    (answer : Result Unit) :
    drawnAt (⟨.pointer, .ok pointer⟩ :: placed ++ [⟨.drawPointer point, answer⟩]) = [point] := by
  change drawnAt (placed ++ _) = _
  rw [drawnAt, List.filterMap_append]
  exact congrArg (· ++ _) hp.drawnAt_eq

theorem Placing.exists_isFailure {error : CaptureError}
    (hp : Placing topology rect pointer placement placed (.error (.error error))) :
    ∃ reply ∈ placed, reply.IsFailure := by
  cases hp with
  | lost window _ error => exact ⟨_, List.mem_singleton_self _, .windowRect window error⟩

theorem Placing.not_isFailure {result : Except (Failure CaptureError) Point}
    (hp : Placing topology rect pointer placement placed result)
    (hr : ∀ error, result ≠ .error (.error error)) : ∀ reply ∈ placed, ¬ reply.IsFailure := by
  cases hp with
  | desktop | offDesktop => exact List.forall_mem_nil _
  | window | offWindow => exact List.forall_mem_singleton.mpr nofun
  | lost => exact absurd rfl (hr _)

theorem Placing.exists_bounds {point : Point}
    (hp : Placing topology rect pointer placement placed (.ok point)) :
    ∀ window scale, placement = .window window scale →
      ∃ bounds, ⟨.windowRect window, .ok bounds⟩ ∈ placed := by
  rintro window scale rfl
  cases hp with
  | @window _ _ bounds => exact ⟨bounds, List.mem_singleton_self _⟩

theorem Drawing.exists_isFailure {error : CaptureError}
    (hd : Drawing topology rect placement made spoken (.error (.error error))) :
    ∃ reply ∈ made, reply.IsFailure := by
  generalize hr : (Except.error (.error error) : Except (Failure CaptureError) Unit) = result at hd
  cases hd with
  | unasked error => exact ⟨_, List.mem_singleton_self _, .pointer error⟩
  | hidden | outside => cases hr
  | unplaced _ hp =>
    cases hr
    obtain ⟨reply, hmem, hf⟩ := hp.exists_isFailure
    exact ⟨reply, List.mem_cons_of_mem _ hmem, hf⟩
  | @drawn _ _ point result _ hp =>
    rcases result with error | _
    · exact ⟨_, List.mem_append_right _ (List.mem_singleton_self _), .drawPointer point error⟩
    · cases hr

theorem Drawing.not_isFailure {result : Except (Failure CaptureError) Unit}
    (hd : Drawing topology rect placement made spoken result)
    (hr : ∀ error, result ≠ .error (.error error)) : ∀ reply ∈ made, ¬ reply.IsFailure := by
  cases hd with
  | unasked => exact absurd rfl (hr _)
  | hidden => exact List.forall_mem_singleton.mpr nofun
  | @unplaced _ _ failure _ hp =>
    refine List.forall_mem_cons.mpr ⟨nofun, hp.not_isFailure fun error he ↦ hr error ?_⟩
    rw [Except.error.inj he]
  | outside _ hp => exact List.forall_mem_cons.mpr ⟨nofun, hp.not_isFailure fun _ he ↦ by cases he⟩
  | @drawn _ _ point result _ hp =>
    rcases result with error | _
    · exact absurd rfl (hr _)
    · refine List.forall_mem_cons.mpr ⟨nofun, List.forall_mem_append.mpr ⟨?_, ?_⟩⟩
      · exact hp.not_isFailure fun _ he ↦ by cases he
      · exact List.forall_mem_singleton.mpr nofun

theorem Drawing.not_isWarning {result : Except (Failure CaptureError) Unit}
    (hd : Drawing topology rect placement made spoken result) :
    spoken.filter LogLine.IsWarning = [] := by
  cases hd <;> rfl

theorem Drawing.properly {result : Except (Failure CaptureError) Unit}
    (hd : Drawing topology rect placement made spoken result) :
    DrawnProperly placement rect made := by
  cases hd with
  | unasked | hidden => exact .of_undrawn rfl rfl
  | unplaced _ hp | outside _ hp =>
    exact .of_undrawn (congrArg (·.length + 1) hp.filter_pointer) hp.drawnAt_eq
  | @drawn pointer placed point result hv hp hin =>
    have hat := hp.drawnAt_append point result
    refine ⟨?_, hat ▸ Nat.le_refl 1, ?_, ?_, ?_⟩
    · rw [List.filter_append]
      exact congrArg (fun asked ↦ (asked ++ []).length + 1) hp.filter_pointer
    · exact fun _ _ ↦ ⟨pointer, List.mem_cons_self, hv⟩
    · rintro _ - window scale hw
      obtain ⟨bounds, hbounds⟩ := hp.exists_bounds window scale hw
      exact ⟨bounds, List.mem_append_left _ (List.mem_cons_of_mem _ hbounds)⟩
    · rw [hat]
      exact List.forall_mem_singleton.mpr hin

theorem Stroke.placement_eq (hs : Stroke topology rect overlay made spoken left?) :
    (left?.getD overlay).placement = overlay.placement := by
  cases hs <;> rfl

theorem Stroke.properly (hs : Stroke topology rect overlay made spoken left?) :
    DrawnProperly overlay.placement rect made := by
  obtain ⟨_, _, -, -, hd⟩ := hs.exists_drawing
  exact hd.properly

theorem Stroke.reported_iff (hs : Stroke topology rect overlay made spoken left?) :
    (left?.getD overlay).reported = true ↔
      overlay.reported = true ∨ ∃ reply ∈ made, reply.IsFailure := by
  cases hs with
  | fine hd | broken hd =>
    refine ⟨.inl, fun ho ↦ ho.resolve_right ?_⟩
    rintro ⟨reply, hmem, hf⟩
    exact hd.not_isFailure (fun _ he ↦ by cases he) reply hmem hf
  | silent hd hr => exact iff_of_true hr (.inl hr)
  | warned hd => exact iff_of_true rfl (.inr hd.exists_isFailure)

theorem Stroke.warns (hs : Stroke topology rect overlay made spoken left?)
    (hr : overlay.reported = false) (hf : ∃ reply ∈ made, reply.IsFailure) :
    (spoken.filter LogLine.IsWarning).length = 1 := by
  cases hs with
  | fine hd | broken hd =>
    obtain ⟨reply, hmem, hf⟩ := hf
    exact absurd hf (hd.not_isFailure (fun _ he ↦ by cases he) reply hmem)
  | silent hd hr' => cases hr.symm.trans hr'
  | warned hd =>
    rw [List.filter_append, hd.not_isWarning]
    rfl

theorem Stroke.warns_nothing (hs : Stroke topology rect overlay made spoken left?)
    (hq : overlay.reported = true ∨ ∀ reply ∈ made, ¬ reply.IsFailure) :
    spoken.filter LogLine.IsWarning = [] := by
  cases hs with
  | fine hd | broken hd | silent hd => exact hd.not_isWarning
  | warned hd hr =>
    obtain ⟨reply, hmem, hf⟩ := hd.exists_isFailure
    rcases hq with hq | hq
    · cases hr.symm.trans hq
    · exact absurd hf (hq reply hmem)

/-- Calls each of which begins with the overlay that the one before it left. -/
inductive Strokes (h : Host ω) : PointerOverlay → List (Drawn ω) → PointerOverlay → Prop
  | nil (overlay : PointerOverlay) : Strokes h overlay [] overlay
  | cons {d : Drawn ω} {drawn : List (Drawn ω)} {last : PointerOverlay} :
    Stroke d.topology d.rect d.before (d.replies h) (d.watched h).2.lines d.left? →
    Strokes h d.after drawn last → Strokes h d.before (d :: drawn) last

namespace Strokes

variable {h : Host ω} {overlay last : PointerOverlay} {drawn : List (Drawn ω)}

theorem split {earlier later : List (Drawn ω)} {d : Drawn ω}
    (hs : Strokes h overlay (earlier ++ d :: later) last) :
    Strokes h overlay earlier d.before ∧
      Stroke d.topology d.rect d.before (d.replies h) (d.watched h).2.lines d.left? := by
  induction earlier generalizing overlay with
  | nil =>
    cases hs with
    | cons hstroke _ => exact ⟨.nil _, hstroke⟩
  | cons first earlier ih =>
    cases hs with
    | cons hfirst hrest =>
      obtain ⟨hbefore, hstroke⟩ := ih hrest
      exact ⟨.cons hfirst hbefore, hstroke⟩

theorem placement_eq (hs : Strokes h overlay drawn last) : last.placement = overlay.placement := by
  induction hs with
  | nil overlay => rfl
  | cons hstroke _ ih => exact ih.trans hstroke.placement_eq

theorem reported_iff (hs : Strokes h overlay drawn last) :
    last.reported = true ↔ overlay.reported = true ∨ ∃ d ∈ drawn, d.Fails h := by
  induction hs with
  | nil overlay => simp
  | @cons d _ _ hstroke _ ih =>
    have hreported : d.after.reported = true ↔ d.before.reported = true ∨ d.Fails h :=
      hstroke.reported_iff
    rw [ih, hreported, or_assoc, List.exists_mem_cons_iff]

theorem warns_nothing (hs : Strokes h overlay drawn last)
    (hq : overlay.reported = true ∨ ∀ d ∈ drawn, ¬ d.Fails h) :
    drawn.flatMap (·.warnings h) = [] := by
  induction hs with
  | nil overlay => rfl
  | @cons d drawn last hstroke _ ih =>
    have hd : d.before.reported = true ∨ ∀ reply ∈ d.replies h, ¬ reply.IsFailure :=
      hq.imp_right fun hq reply hmem hf ↦ hq d List.mem_cons_self ⟨reply, hmem, hf⟩
    have hrest : d.after.reported = true ∨ ∀ d' ∈ drawn, ¬ d'.Fails h :=
      hq.imp (fun hr ↦ hstroke.reported_iff.mpr (.inl hr)) fun hq ↦ (List.forall_mem_cons.mp hq).2
    rw [List.flatMap_cons, ih hrest, List.append_nil]
    exact hstroke.warns_nothing hd

theorem warns (hs : Strokes h overlay drawn last) (hr : overlay.reported = false)
    (hf : ∃ d ∈ drawn, d.Fails h) : (drawn.flatMap (·.warnings h)).length = 1 := by
  induction hs with
  | nil overlay => simp at hf
  | @cons d drawn last hstroke hrest ih =>
    rw [List.flatMap_cons, List.length_append]
    by_cases hd : d.Fails h
    · have hreported : d.after.reported = true := hstroke.reported_iff.mpr (.inr hd)
      rw [hrest.warns_nothing (.inl hreported)]
      exact hstroke.warns hr hd
    · have hnone : d.warnings h = [] :=
        hstroke.warns_nothing (.inr fun reply hmem hf ↦ hd ⟨_, hmem, hf⟩)
      have hreported : d.after.reported = false :=
        Bool.eq_false_iff.mpr fun ha ↦ (hstroke.reported_iff.mp ha).elim (hr ▸ nofun) hd
      rw [hnone, List.length_nil, Nat.zero_add]
      exact ih hreported ((List.exists_mem_cons_iff ..).mp hf |>.resolve_left hd)

end Strokes

section

variable (h : Host ω) (overlay : PointerOverlay) (requests : List (DrawRequest ω)) (w : ω)

theorem draw_watched (topology : Topology) (rect : Rect) :
    let watched := overlay.draw h.watched topology rect (.ofWorld w)
    overlay.draw h topology rect w = (watched.1, watched.2.world.world) ∧
      Stroke topology rect overlay watched.2.replies watched.2.lines watched.1 := by
  intro watched
  have hrelated := h.watched_related
  obtain ⟨hafter, hworld⟩ := Session.draw_related hrelated.composes
    (fun call _ ↦ hrelated.call call trivial) (fun line _ ↦ hrelated.log line) overlay topology rect
    (.ofWorld w) w rfl
  obtain ⟨made, spoken, hmade, hspoken, hs⟩ := draw_accounts h overlay topology rect (.ofWorld w)
  refine ⟨Prod.ext hafter.symm hworld.symm, ?_⟩
  rw [hmade, hspoken]
  exact hs

theorem draws_cons (request : DrawRequest ω) : overlay.draws h (request :: requests) w =
    let w₁ := request.change w
    let r := overlay.draw h request.topology request.rect w₁
    let d : Drawn ω := ⟨w₁, overlay, request.topology, request.rect, r.1⟩
    let rest := d.after.draws h requests r.2
    ((d :: rest.1.1, rest.1.2), rest.2) := rfl

theorem draws_strokes :
    Strokes h overlay (overlay.draws h requests w).1.1 (overlay.draws h requests w).1.2 := by
  induction requests generalizing overlay w with
  | nil => exact .nil overlay
  | cons request requests ih =>
    rw [draws_cons]
    obtain ⟨hdraw, hs⟩ :=
      overlay.draw_watched h (request.change w) request.topology request.rect
    refine .cons (d := ⟨_, overlay, _, _, _⟩) ?_ (ih _ _)
    rw [hdraw]
    exact hs

theorem draws_calls :
    let drawn := (overlay.draws h requests w).1.1
    drawn.map (fun d ↦ (d.topology, d.rect)) =
        requests.map (fun request ↦ (request.topology, request.rect)) ∧
      ∀ d ∈ drawn, d.before.draw h d.topology d.rect d.world =
        (d.left?, (d.watched h).2.world.world) ∧ (d.watched h).1 = d.left? := by
  induction requests generalizing overlay w with
  | nil => exact ⟨rfl, List.forall_mem_nil _⟩
  | cons request requests ih =>
    rw [draws_cons]
    obtain ⟨hrequests, hcalls⟩ := ih _ _
    refine ⟨congrArg (_ :: ·) hrequests, List.forall_mem_cons.mpr ⟨?_, hcalls⟩⟩
    have hdraw := (overlay.draw_watched h (request.change w) request.topology request.rect).1
    have hafter := congrArg Prod.fst hdraw
    have hworld := congrArg Prod.snd hdraw
    exact ⟨Prod.ext rfl hworld, hafter.symm⟩

end

end PointerOverlay

theorem BitmapLayout.address_lt (layout : BitmapLayout) {x y : Nat} (hx : x < layout.width)
    (hy : y < layout.height) :
    y * layout.rowStride + x * layout.depth / 8 < layout.frameSize := by
  have hcolumn : x * layout.depth / 8 < layout.rowStride := by
    have hpixels : (x + 1) * layout.depth ≤ layout.width * layout.depth :=
      Nat.mul_le_mul_right _ hx
    have hdepth := layout.eight_le_depth
    rw [Nat.add_mul, Nat.one_mul] at hpixels
    unfold rowStride Bitmap.rowStride
    omega
  have hrows : (y + 1) * layout.rowStride ≤ layout.height * layout.rowStride :=
    Nat.mul_le_mul_right _ hy
  rw [Nat.add_mul, Nat.one_mul] at hrows
  rw [frameSize, Nat.mul_comm layout.rowStride]
  omega

theorem drawnAt_filter (replies : List Reply) :
    drawnAt (replies.filter (·.call.IsPointers)) = drawnAt replies := by
  unfold drawnAt
  rw [List.filterMap_filter]
  congr 1
  funext ⟨call, answer⟩
  cases call <;> rfl

namespace Session

theorem Points.transfer {session session' : Session} {made : List Reply} {told : List LogLine}
    {broken : Bool} (hp : session'.Points made told broken)
    (htopology : session'.topology = session.topology) (htarget : session'.target = session.target)
    (hplacement : session'.overlay.map PointerOverlay.placement =
      session.overlay.map PointerOverlay.placement) : session.Points made told broken := by
  cases hp with
  | idle => exact .idle
  | drawn ho hs =>
    rw [htopology, htarget] at hs
    exact .drawn (hplacement.symm.trans ho) hs

theorem Points.inside {session : Session} {made : List Reply} {told : List LogLine} {broken : Bool}
    (hp : session.Points made told broken) : ∀ point ∈ drawnAt made,
    (0 ≤ point.x ∧ point.x < session.target.captureRect.width) ∧
      0 ≤ point.y ∧ point.y < session.target.captureRect.height := by
  cases hp with
  | idle => exact List.forall_mem_nil _
  | drawn _ hs => exact hs.properly.inside

section

variable {h : Host ω} {session : Session} {steps : List (Step ω)} {w : ω} {episode : Episode ω}
  (he : episode ∈ (session.run h steps w).1.1) (patience : Nat)
include he

/-- What a session does for the pointer in a later read is what it would do for it at first. -/
theorem points_of_episode :
    let watched := episode.before.read h.watched patience (.ofWorld episode.world)
    watched.1 = (episode.before.read h patience episode.world).1 ∧
    ∃ told, told <:+: watched.2.lines ∧
      session.Points (watched.2.replies.filter (·.call.IsPointers)) told
        (decide (watched.1.1 = .overflow)) := by
  obtain ⟨⟨hreading, -⟩, told, htold, hpoints⟩ :=
    episode.before.read_watched h patience episode.world
  obtain ⟨earlier, ht⟩ := (session.run_trail h steps w).exists_before he
  obtain ⟨-, htarget, -⟩ := ht.settings_eq
  obtain ⟨htopology, hplacement⟩ := ht.outlook_eq
  exact ⟨hreading, told, htold, hpoints.transfer htopology htarget hplacement⟩

theorem address_of_drawnAt {options : CaptureOptions} (hm : Measured options session) :
    ∀ point ∈ drawnAt (episode.before.read h.watched patience (.ofWorld episode.world)).2.replies,
      (0 ≤ point.x ∧ 0 ≤ point.y) ∧
      point.y * session.layout.rowStride + point.x * session.layout.depth / 8 <
        session.layout.frameSize := by
  intro point hpoint
  obtain ⟨-, told, -, hpoints⟩ := points_of_episode he patience
  rw [← drawnAt_filter] at hpoint
  obtain ⟨⟨hleft, hright⟩, htop, hbottom⟩ := hpoints.inside point hpoint
  have hwidth := hm.width_eq
  have hheight := hm.height_eq
  have haddress := session.layout.address_lt (x := point.x.toNat) (y := point.y.toNat)
    (by omega) (by omega)
  refine ⟨⟨hleft, htop⟩, ?_⟩
  rw [← Int.toNat_of_nonneg hleft, ← Int.toNat_of_nonneg htop]
  exact_mod_cast haddress

end

end Session

namespace PointerOverlay

/-- Each call asks for the pointer once, whatever failed before, and draws it at most once, where it
is visible, can be placed and lies in the rectangle; in a session that is on the surface. Of all
calls that fail the first one writes a warning, the others write none, and from then on the failure
is noted. -/
theorem first_failure_is_reported (h : Host ω) (placement : Placement)
    (requests : List (DrawRequest ω)) (w : ω) :
    let drawn := ((new placement).draws h requests w).1.1
    let last := ((new placement).draws h requests w).1.2
    (drawn.map (fun d ↦ (d.topology, d.rect)) =
        requests.map (fun request ↦ (request.topology, request.rect)) ∧
      ∀ d ∈ drawn, (d.before.draw h d.topology d.rect d.world =
          (d.left?, (d.watched h).2.world.world) ∧ (d.watched h).1 = d.left?) ∧
        DrawnProperly placement d.rect (d.replies h)) ∧
    (∀ earlier d later, drawn = earlier ++ d :: later →
      (d.after.reported = true ↔ ∃ d' ∈ earlier ++ [d], d'.Fails h) ∧
      ((d.Fails h ∧ ∀ d' ∈ earlier, ¬ d'.Fails h) → (d.warnings h).length = 1) ∧
      (¬ (d.Fails h ∧ ∀ d' ∈ earlier, ¬ d'.Fails h) → d.warnings h = [])) ∧
    ((last.reported = true ↔ ∃ d ∈ drawn, d.Fails h) ∧
      ((∃ d ∈ drawn, d.Fails h) → (drawn.flatMap (·.warnings h)).length = 1) ∧
      ((∀ d ∈ drawn, ¬ d.Fails h) → drawn.flatMap (·.warnings h) = [])) ∧
    ∀ options target w₁ session w₂, Session.start h options target w₁ = (.ok session, w₂) →
      ∀ steps, ∀ episode ∈ (session.run h steps w₂).1.1, ∀ patience,
        let watched := episode.before.read h.watched patience (.ofWorld episode.world)
        watched.1 = (episode.before.read h patience episode.world).1 ∧
        ∀ point ∈ drawnAt watched.2.replies, (0 ≤ point.x ∧ 0 ≤ point.y) ∧
          point.y * session.layout.rowStride + point.x * session.layout.depth / 8 <
            session.layout.frameSize := by
  intro drawn last
  have hstrokes : Strokes h (new placement) drawn last := draws_strokes h _ requests w
  obtain ⟨hrequests, hcalls⟩ := draws_calls h (new placement) requests w
  refine ⟨⟨hrequests, fun d hd ↦ ⟨hcalls d hd, ?_⟩⟩, ?_, ⟨?_, ?_, ?_⟩, ?_⟩
  · obtain ⟨earlier, later, hsplit⟩ := List.append_of_mem hd
    obtain ⟨hbefore, hstroke⟩ := (hsplit ▸ hstrokes).split
    have hplacement : d.before.placement = placement := hbefore.placement_eq
    exact hplacement ▸ hstroke.properly
  · intro earlier d later hsplit
    obtain ⟨hbefore, hstroke⟩ := (hsplit ▸ hstrokes).split
    have hnoted : d.before.reported = true ↔ ∃ d' ∈ earlier, d'.Fails h :=
      hbefore.reported_iff.trans (or_iff_right nofun)
    refine ⟨?_, fun ⟨hfails, hnone⟩ ↦ ?_, fun hq ↦ ?_⟩
    · have hreported : d.after.reported = true ↔ d.before.reported = true ∨ d.Fails h :=
        hstroke.reported_iff
      rw [hreported, hnoted]
      simp [or_and_right, exists_or]
    · refine hstroke.warns (Bool.eq_false_iff.mpr fun hr ↦ ?_) hfails
      obtain ⟨d', hmem, hf⟩ := hnoted.mp hr
      exact hnone d' hmem hf
    · refine hstroke.warns_nothing ?_
      by_cases hr : d.before.reported = true
      · exact .inl hr
      · refine .inr fun reply hmem hf ↦ hq ⟨⟨reply, hmem, hf⟩, fun d' hd' hf' ↦ ?_⟩
        exact hr (hnoted.mpr ⟨d', hd', hf'⟩)
  · exact hstrokes.reported_iff.trans (or_iff_right nofun)
  · exact hstrokes.warns rfl
  · exact fun hnone ↦ hstrokes.warns_nothing (.inr hnone)
  · intro options target w₁ session w₂ hstart steps episode he patience
    have hm : Session.Measured options session :=
      Session.start_measured options target w₁ session (by rw [hstart])
    exact ⟨(Session.points_of_episode he patience).1, Session.address_of_drawnAt he patience hm⟩

theorem first_failure_is_reported_twoByTwo :
    let h := Host.assemble .inMemory .manual
    let display := { MemoryDisplay.twoByTwo with pointer := ⟨true, ⟨1, 1⟩, ⟨0, 0⟩⟩ }
    let w : World MemoryDisplay ManualClock := ⟨display, .startingAt 0⟩
    let topology : Topology := ⟨display.monitors⟩
    let requests : List (DrawRequest (World MemoryDisplay ManualClock)) :=
      [⟨id, topology, ⟨0, 0, 1, 1⟩⟩, ⟨id, topology, ⟨0, 0, 2, 2⟩⟩,
        ⟨fun w ↦ { w with screen := { w.screen with failPointer := true } }, topology,
          ⟨0, 0, 2, 2⟩⟩]
    let drawn := ((new (.desktop .identity)).draws h requests w).1.1
    (drawn.map (·.after.reported) = [false, true, true] ∧
      (drawn.flatMap (·.warnings h)).length = 1) ∧
    ∃ session w₂, Session.start h .standard .desktop w = (.ok session, w₂) ∧
      drawnAt (session.read h.watched 3 (.ofWorld w₂)).2.replies = [⟨1, 1⟩] ∧
      1 * session.layout.rowStride + 1 * session.layout.depth / 8 < session.layout.frameSize := by
  intro h display w topology requests drawn
  obtain ⟨-, -, ⟨hreported, hwarns, -⟩, haddress⟩ :=
    first_failure_is_reported h (.desktop .identity) requests w
  obtain ⟨session, w₂, hstart, hat⟩ := Session.exists_started (h := h) .standard .desktop w
    (a := [⟨1, 1⟩])
    (f := fun session w₂ ↦ drawnAt (session.read h.watched 3 (.ofWorld w₂)).2.replies)
    (by decide +kernel)
  refine ⟨⟨by decide +kernel, hwarns (hreported.mp (by decide +kernel))⟩, session, w₂, hstart, hat,
    ?_⟩
  obtain ⟨-, hpoints⟩ := haddress .standard .desktop w session w₂ hstart [.read 3] _
    List.mem_cons_self 3
  have hbyte : (1 : Int) * session.layout.rowStride + 1 * session.layout.depth / 8 <
      session.layout.frameSize := (hpoints ⟨1, 1⟩ (hat ▸ List.mem_singleton_self _)).2
  exact_mod_cast hbyte

end PointerOverlay

end ScreenCapture

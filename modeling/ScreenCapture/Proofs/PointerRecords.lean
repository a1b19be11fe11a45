import ScreenCapture.Proofs.TwoWorlds

namespace ScreenCapture

variable {ω ω' α β : Type}

def Entry.IsPointers : Entry → Prop
  | .call made => made.IsPointers
  | .log line => line.IsPointers

instance (entry : Entry) : Decidable entry.IsPointers := by
  cases entry <;> unfold Entry.IsPointers <;> infer_instance

namespace Recording

/-- All that is on record but for what is hidden. -/
def besides (hidden : Entry → Prop) [DecidablePred hidden] (r : Recording ω) : List Entry :=
  r.entries.toList.filter (¬ hidden ·)

/-- Nothing was drawn. -/
def Undrawn (r : Recording ω) : Prop := ∀ point, .drawPointer point ∉ r.calls

/-- Related worlds with the same record, but for what is hidden. -/
def Level (hidden : Entry → Prop) [DecidablePred hidden] (R : ω → ω' → Prop) (r : Recording ω)
    (r' : Recording ω') : Prop :=
  R r.world r'.world ∧ r.besides hidden = r'.besides hidden

variable (r : Recording ω)

theorem undrawn_add_call (call : Call) :
    (r.add (.call call)).Undrawn ↔ r.Undrawn ∧ ∀ point, call ≠ .drawPointer point := by
  have hcalls : (r.add (.call call)).calls = r.calls ++ [call] := by
    simp [calls, add]
  unfold Undrawn
  simp only [hcalls, List.mem_append, List.mem_singleton, not_or, forall_and]
  exact and_congr_right fun _ ↦ forall_congr' fun point ↦ not_congr eq_comm

theorem undrawn_add_log (line : LogLine) : (r.add (.log line)).Undrawn ↔ r.Undrawn := by
  have hcalls : (r.add (.log line)).calls = r.calls := by
    simp [calls, add]
  unfold Undrawn
  rw [hcalls]

section

variable (hidden : Entry → Prop) [DecidablePred hidden]

theorem besides_add (entry : Entry) : (r.add entry).besides hidden =
    r.besides hidden ++ if hidden entry then [] else [entry] := by
  simp only [besides, add, Array.toList_push, List.filter_append, List.filter_cons, List.filter_nil]
  by_cases hh : hidden entry <;> simp [hh]

variable {hidden} {R : ω → ω' → Prop} {Q : α → β → Prop} {act : StateM ω α} {act' : StateM ω' β}
  {entry : Entry}

theorem matches_add (h : Matches R Q act act') (entry : Entry) :
    Matches (Level hidden R) Q (fun r ↦ onWorld act (r.add entry))
      (fun r ↦ onWorld act' (r.add entry)) := by
  rintro r r' ⟨hw, hbesides⟩
  obtain ⟨hanswer, hafter⟩ := h r.world r'.world hw
  refine ⟨hanswer, hafter, ?_⟩
  change (r.add entry).besides hidden = (r'.add entry).besides hidden
  rw [besides_add, besides_add, hbesides]

theorem apart_add (h : Apart R act act') (he : hidden entry) :
    Apart (Level hidden R) (fun r ↦ onWorld act (r.add entry))
      (fun r ↦ onWorld act' (r.add entry)) where
  left r r' := by
    rintro ⟨hw, hbesides⟩
    refine ⟨h.left r.world r'.world hw, ?_⟩
    change (r.add entry).besides hidden = _
    rw [besides_add, if_pos he, List.append_nil, hbesides]
  right r' r := by
    rintro ⟨hw, hbesides⟩
    refine ⟨h.right r'.world r.world hw, ?_⟩
    change _ = (r'.add entry).besides hidden
    rw [besides_add, if_pos he, List.append_nil, hbesides]

end

end Recording

namespace Host

open Recording

theorem make_recorded (h : Host ω) (call : Call) :
    h.recorded.make call = fun r ↦ onWorld (h.make call) (r.add (.call call)) := by
  cases call <;> rfl

variable {h : Host ω} {h' : Host ω'} {R : ω → ω' → Prop} {Q : ByteArray → ByteArray → Prop}

theorem Related.recorded {hidden : Entry → Prop} [DecidablePred hidden] {calls : Call → Prop}
    (hr : h.Related h' (Agrees R) calls) :
    h.recorded.Related h'.recorded (Agrees (Level hidden R)) calls where
  composes := Agrees.composes _
  call call hc := by
    rw [make_recorded, make_recorded]
    exact matches_add (hr.call call hc) _
  log line := matches_add (hr.log line) _

theorem Twins.recorded (ht : h.Twins h' R Q) :
    h.recorded.Twins h'.recorded (Level Entry.IsPointers R) Q where
  shared call hc := by
    rw [make_recorded, make_recorded]
    exact matches_add (ht.shared call hc) _
  pixels := matches_add ht.pixels _
  pointers call hc := by
    rw [make_recorded, make_recorded]
    exact apart_add (ht.pointers call hc) hc
  log line := matches_add (ht.log line) _
  pointerLog line hl := apart_add (ht.pointerLog line hl) hl

def drawless (h : Host ω) : Host ω := { h with drawPointer := fun _ ↦ pure () }

/-- As long as `act` draws nothing, the other operation does the same. -/
def Spares ⦃α : Type⦄ (act act' : StateM (Recording ω) α) : Prop :=
  ∀ r, (act r).2.Undrawn → r.Undrawn ∧ act r = act' r

theorem Spares.composes : Composes (Spares (ω := ω)) where
  pure _ _ hr := ⟨hr, rfl⟩
  bind {α β act act' next next'} hfirst hnext r hr := by
    obtain ⟨hmid, hrest⟩ := hnext r (act r).2 hr
    obtain ⟨hstart, hact⟩ := hfirst r hmid
    refine ⟨hstart, ?_⟩
    change next (act r).1 (act r).2 = next' (act' r).1 (act' r).2
    rw [hrest, hact]

theorem drawless_related (h : Host ω) {calls : Call → Prop} :
    h.recorded.Related h.drawless.recorded Spares calls where
  composes := Spares.composes
  call call _ := by
    rw [make_recorded, make_recorded]
    intro r hr
    obtain ⟨hstart, hcall⟩ := (r.undrawn_add_call call).mp hr
    refine ⟨hstart, ?_⟩
    cases call with
    | drawPointer point => exact absurd rfl (hcall point)
    | _ => rfl
  log line r hr := ⟨(r.undrawn_add_log line).mp hr, rfl⟩

end Host

namespace PointerOverlay

open Recording

variable {h : Host ω}

theorem position_recorded (topology : Topology) (rect : Rect) (pointer : PointerState)
    (placement : Placement) (r : Recording ω) :
    ∃ r', position h.recorded topology rect pointer placement r =
      ((position h topology rect pointer placement r.world).1, r') ∧ (r'.Undrawn ↔ r.Undrawn) := by
  cases placement with
  | desktop scale => exact ⟨r, rfl, .rfl⟩
  | window window scale =>
    have hcall : h.recorded.windowRect window r = ((h.windowRect window r.world).1,
        ⟨(h.windowRect window r.world).2, (r.add (.call (.windowRect window))).entries⟩) := rfl
    have hundrawn := (r.undrawn_add_call (.windowRect window)).trans (and_iff_left nofun)
    rw [position, position, Attempt.bind_apply, Attempt.bind_apply, Attempt.adapt_apply,
      Attempt.adapt_apply, hcall]
    rcases h.windowRect window r.world with ⟨error | bounds, w⟩
    · exact ⟨_, rfl, hundrawn⟩
    · exact ⟨_, rfl, hundrawn⟩

theorem mark_undrawn_iff (line : LogLine) (point : Point) (bounds : Rect) (r : Recording ω) :
    ((do
      h.recorded.log line
      if point ∈ bounds then
        (h.recorded.drawPointer point).adapt fun error ↦ .error error.asOverlay :
      Procedure (Recording ω) Unit) r).2.Undrawn ↔ r.Undrawn ∧ point ∉ bounds := by
  rw [← r.undrawn_add_log line]
  by_cases hin : point ∈ bounds
  · simp only [if_pos hin]
    change ((r.add (.log line)).add (.call (.drawPointer point))).Undrawn ↔ _
    rw [undrawn_add_call]
    exact ⟨fun hu ↦ absurd rfl (hu.2 point), fun hu ↦ absurd hin hu.2⟩
  · simp only [if_neg hin]
    exact (and_iff_left hin).symm

theorem attempt_undrawn_iff (placement : Placement) (topology : Topology) (rect : Rect)
    (r : Recording ω) :
    (attempt h.recorded placement topology rect r).2.Undrawn ↔ r.Undrawn ∧
      ∀ pointer point, (h.pointer r.world).1 = .ok pointer → pointer.visible = true →
        (position h topology rect pointer placement (h.pointer r.world).2).1 = .ok point →
        point ∉ Rect.mk 0 0 rect.width rect.height := by
  have hcall : h.recorded.pointer r = ((h.pointer r.world).1,
      ⟨(h.pointer r.world).2, (r.add (.call .pointer)).entries⟩) := rfl
  have hundrawn := (r.undrawn_add_call .pointer).trans (and_iff_left nofun)
  rw [attempt, Attempt.bind_apply, Attempt.adapt_apply, hcall]
  rcases h.pointer r.world with ⟨error | pointer, w⟩
  · exact hundrawn.trans (and_iff_left nofun).symm
  · dsimp only [Except.mapError]
    by_cases hv : pointer.visible = true
    · rw [if_pos hv, Attempt.bind_apply]
      obtain ⟨r', hposition, hr'⟩ := position_recorded (h := h) topology rect pointer placement
        ⟨w, (r.add (.call .pointer)).entries⟩
      rw [hposition]
      dsimp only
      rcases hp : position h topology rect pointer placement w with ⟨error | point, w'⟩
      · refine (hr'.trans hundrawn).trans (and_iff_left ?_).symm
        rintro _ point ⟨rfl⟩ - hplaced
        rw [hp] at hplaced
        cases hplaced
      · refine (mark_undrawn_iff _ point _ r').trans (and_congr (hr'.trans hundrawn) ?_)
        refine ⟨?_, fun hout ↦ hout pointer point rfl hv (by rw [hp])⟩
        rintro hout _ placed ⟨rfl⟩ - hplaced
        rw [hp] at hplaced
        cases hplaced
        exact hout
    · rw [if_neg hv]
      refine hundrawn.trans (and_iff_left ?_).symm
      rintro _ point ⟨rfl⟩ hvisible
      exact absurd hvisible hv

end PointerOverlay

namespace Session

variable {h : Host ω}

/-- Why the tick of a session does not draw the pointer on what was copied. -/
inductive SparesPixels (h : Host ω) (session : Session) (w : ω) : Prop
  | off : session.overlay = none → SparesPixels h session w
  | unasked {overlay : PointerOverlay} {error : CaptureError} : session.overlay = some overlay →
    (h.pointer w).1 = .error error → SparesPixels h session w
  | hidden {overlay : PointerOverlay} {pointer : PointerState} : session.overlay = some overlay →
    (h.pointer w).1 = .ok pointer → pointer.visible = false → SparesPixels h session w
  | unplaced {overlay : PointerOverlay} {pointer : PointerState}
    {failure : Failure CaptureError} :
    session.overlay = some overlay → (h.pointer w).1 = .ok pointer →
    (PointerOverlay.position h session.topology session.target.captureRect pointer
      overlay.placement (h.pointer w).2).1 = .error failure → SparesPixels h session w
  | outside {overlay : PointerOverlay} {pointer : PointerState} {point : Point} :
    session.overlay = some overlay → (h.pointer w).1 = .ok pointer →
    (PointerOverlay.position h session.topology session.target.captureRect pointer
      overlay.placement (h.pointer w).2).1 = .ok point →
    point ∉ Rect.mk 0 0 session.target.captureRect.width session.target.captureRect.height →
    SparesPixels h session w

/-- Nothing is drawn in a tick for one of these reasons, and for no other. -/
theorem drawPointer_undrawn_iff (session : Session) (r : Recording ω) :
    (session.drawPointer h.recorded r).2.Undrawn ↔ r.Undrawn ∧ session.SparesPixels h r.world := by
  rcases ho : session.overlay with _ | overlay
  · simp only [drawPointer, ho]
    exact (and_iff_left (.off ho)).symm
  · have hdraw : (session.drawPointer h.recorded r).2.Undrawn ↔
        (PointerOverlay.attempt h.recorded overlay.placement session.topology
          session.target.captureRect r).2.Undrawn := by
      simp only [drawPointer, ho, PointerOverlay.draw, bind, StateT.bind, ExceptT.run]
      rcases PointerOverlay.attempt h.recorded overlay.placement session.topology
        session.target.captureRect r with ⟨(error | _) | _, r'⟩
      · by_cases hr : overlay.reported
        · simp only [hr]
          rfl
        · simp only [hr]
          exact r'.undrawn_add_log _
      · rfl
      · rfl
    rw [hdraw, PointerOverlay.attempt_undrawn_iff]
    refine and_congr_right fun _ ↦ ⟨fun hout ↦ ?_, fun hs ↦ ?_⟩
    · rcases hp : (h.pointer r.world).1 with error | pointer
      · exact .unasked ho hp
      · cases hv : pointer.visible with
        | false => exact .hidden ho hp hv
        | true =>
          rcases hq : (PointerOverlay.position h session.topology session.target.captureRect pointer
            overlay.placement (h.pointer r.world).2).1 with error | point
          · exact .unplaced ho hp hq
          · exact .outside ho hp hq (hout pointer point hp hv hq)
    · intro pointer point hp hv hq
      cases hs with
      | off hoff => cases ho.symm.trans hoff
      | unasked _ he => cases hp.symm.trans he
      | hidden _ hp' hv' =>
        cases hp.symm.trans hp'
        exact absurd hv (by rw [hv']; exact Bool.false_ne_true)
      | unplaced ho' hp' hq' =>
        cases ho.symm.trans ho'
        cases hp.symm.trans hp'
        cases hq.symm.trans hq'
      | outside ho' hp' hq' hout =>
        cases ho.symm.trans ho'
        cases hp.symm.trans hp'
        cases hq.symm.trans hq'
        exact hout

end Session

end ScreenCapture

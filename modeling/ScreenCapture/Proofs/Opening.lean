import ScreenCapture.Proofs.Calls
import ScreenCapture.Proofs.Selection

namespace ScreenCapture

variable {ω : Type} {h : Host ω}

/-- There is something to capture, and all of it is part of the target. -/
structure ResolvedTarget.Fits (target : ResolvedTarget) : Prop where
  encloses : target.area.Encloses target.captureRect
  not_isEmpty : ¬ target.captureRect.IsEmpty

/-- The target was selected from its area by a request for pixels of that depth. -/
structure ResolvedTarget.SelectedBy (request : CaptureRequest) (depth : Nat)
    (target : ResolvedTarget) : Prop where
  area_inRange : target.area.InRange
  select_eq : request.select target.area depth = .ok target.captureRect

theorem ResolvedTarget.SelectedBy.fits {request : CaptureRequest} {depth : Nat}
    {target : ResolvedTarget} (hs : target.SelectedBy request depth) : target.Fits := by
  obtain ⟨-, hencloses, hempty, -⟩ := CaptureRequest.select_eq_ok_iff.mp hs.select_eq
  exact ⟨hencloses, hempty⟩

namespace Host

theorem captureArea_answers (topology : Topology) (handle : TargetHandle) :
    Answers (h.captureArea topology handle) fun (area, _) ↦ area.InRange := by
  cases handle with
  | desktop =>
    refine .andThen (.any _) fun logical _ ↦ .andThen (.result _) fun physical hp ↦ ?_
    exact .andThen (.any _) fun _ _ ↦ .succeed (Topology.inRange_of_toPhysical hp)
  | window window =>
    refine .andThen (.any _) fun rect _ ↦ .andThen (.any _) fun scale _ ↦ ?_
    refine .andThen (.any _) fun client _ ↦ .andThen (.any _) fun _ _ ↦ ?_
    exact .succeed (scale.inRange_mapRect client)

theorem resolveTarget_answers (topology : Topology) (handle : TargetHandle)
    (request : CaptureRequest) (depth : Nat) :
    Answers (h.resolveTarget topology handle request depth)
      (ResolvedTarget.SelectedBy request depth) := by
  refine .andThen (captureArea_answers _ _) fun (area, scale) ha ↦ ?_
  refine .andThen (.check _) fun rect hs ↦ ?_
  exact .andThen (.any _) fun _ _ ↦ .succeed ⟨ha, hs⟩

end Host

namespace Session

/-- No frame was taken yet, and the pacer starts from some reading of the clock. -/
structure Fresh (h : Host ω) (options : CaptureOptions) (session : Session) : Prop where
  sequence_eq : session.sequence = 0
  pacer_eq : ∃ w, session.pacer = .start options.frameRate (h.now w).1
  nonblocking_eq : session.options.nonblocking = options.nonblocking
  fits : session.target.Fits

theorem Fresh.of_settled {options settled : CaptureOptions} {shown : Bool} {session : Session}
    (hf : Fresh h settled session) (hs : settled = { options with showRegion := shown }) :
    Fresh h options session := by
  subst hs
  exact ⟨hf.sequence_eq, hf.pacer_eq, hf.nonblocking_eq, hf.fits⟩

theorem settle_gives (options : CaptureOptions) (handle : TargetHandle) :
    Gives (settle h options handle) fun settled ↦ settled = { options with
      showRegion := options.showRegion && decide (handle = .desktop) } := by
  unfold settle
  split
  · next hw =>
    refine .bind (.any _) fun _ _ ↦ .pure ?_
    rw [decide_eq_false hw.2, Bool.and_false]
  · next hw =>
    have hs : (options.showRegion && decide (handle = .desktop)) = options.showRegion := by
      cases hr : options.showRegion <;> simp_all
    exact .pure (by rw [hs])

theorem findTarget_answers (target : CaptureTarget) :
    Answers (h.findTarget target) fun handle ↦ handle = .desktop ↔ target = .desktop := by
  cases target with
  | desktop => exact .succeed (by simp)
  | window title =>
    refine .andThen (.any _) fun found _ ↦ ?_
    cases found with
    | none => exact .fail _
    | some window => exact .succeed (by simp)

theorem setUp_gives (options : CaptureOptions) (topology : Topology) (target : ResolvedTarget)
    (layout : BitmapLayout) : Gives (setUp h options topology target layout) fun session ↦
      (target.Fits → Fresh h options session) ∧
        session.held = if options.showRegion then [.outline, .surface, .source]
          else [.surface, .source] := by
  refine .bind (.any _) fun overlay _ ↦ .bind (.answer _) fun now hn ↦ ?_
  obtain ⟨w, rfl⟩ := hn
  exact .bind (.any _) fun _ _ ↦ .pure ⟨fun hfits ↦ ⟨rfl, ⟨w, rfl⟩, rfl, hfits⟩, rfl⟩

theorem start_answers_of {options : CaptureOptions} {target : CaptureTarget} {Q : Session → Prop}
    (hq : ∀ topology resolved layout depth, resolved.SelectedBy options.request depth →
      BitmapLayout.new resolved.captureRect.width.toNat resolved.captureRect.height.toNat depth =
        .ok layout →
      Gives (setUp h { options with showRegion := options.showRegion && decide (target = .desktop) }
        topology resolved layout) Q) :
    Answers (start h options target) Q := by
  refine .andThen (.embed (findTarget_answers _)) fun handle hh ↦ ?_
  refine .andThen (.lift (settle_gives _ _)) fun settled hs ↦ ?_
  subst hs
  rw [decide_eq_decide.mpr hh]
  refine .andThen (.any _) fun _ _ ↦ .holding ?_
  refine .andThen (.any _) fun depth _ ↦ .andThen (.any _) fun topology _ ↦ ?_
  refine .andThen (Host.resolveTarget_answers _ _ _ _) fun resolved hresolved ↦ ?_
  refine .andThen (.check _) fun layout hlayout ↦ ?_
  refine .andThen (.any _) fun _ _ ↦ .holding ?_
  have hsession := hq topology resolved layout depth hresolved hlayout
  split
  · exact .andThen (.any _) fun _ _ ↦ .lift hsession
  · exact .lift hsession

theorem start_answers (options : CaptureOptions) (target : CaptureTarget) :
    Answers (start h options target) (Fresh h options) :=
  start_answers_of fun topology resolved layout _ hresolved _ w ↦
    ((setUp_gives _ topology resolved layout w).1 hresolved.fits).of_settled rfl

/-- What is found by carrying out an opening and what comes after it holds of a session that was
opened. -/
theorem exists_started {α : Type} (options : CaptureOptions) (target : CaptureTarget) (w : ω)
    {f : Session → ω → α} {a : α}
    (ha : (start h options target w).1.toOption.map (f · (start h options target w).2) = some a) :
    ∃ session w₀, start h options target w = (.ok session, w₀) ∧ f session w₀ = a := by
  rcases hs : start h options target w with ⟨error | session, w₀⟩
  · rw [hs] at ha
    cases ha
  · rw [hs] at ha
    exact ⟨session, w₀, rfl, Option.some.inj ha⟩

end Session

end ScreenCapture

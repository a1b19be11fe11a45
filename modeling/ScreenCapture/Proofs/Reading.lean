import ScreenCapture.Proofs.Calls

namespace ScreenCapture

variable {ω ω' : Type} {h : Host ω} {h' : Host ω'}

theorem PointerOverlay.draw_gives (overlay : PointerOverlay) (topology : Topology) (rect : Rect) :
    Gives (overlay.draw h topology rect) fun drawn ↦
      ∀ after ∈ drawn, ∃ reported, after = { overlay with reported } := by
  have hdrawn (reported : Bool) : ∀ after ∈ some { overlay with reported },
      ∃ reported, after = { overlay with reported } := by
    rintro _ ⟨⟩
    exact ⟨reported, rfl⟩
  refine .bind (.any _) fun outcome _ ↦ ?_
  split
  · exact .pure (hdrawn _)
  · exact .pure nofun
  · split
    · exact .pure (hdrawn _)
    · exact .bind (.any _) fun _ _ ↦ .pure (hdrawn true)

instance : (reading : Reading) → Decidable (reading = .overflow)
  | .overflow => .isTrue rfl
  | .frame _ => .isFalse nofun
  | .failed _ => .isFalse nofun
  | .unfinished => .isFalse nofun

namespace Reading

def frame? : Reading → Option Frame
  | .frame taken => some taken
  | _ => none

def ofTick : Except (Failure CaptureError) Frame → Reading
  | .ok taken => .frame taken
  | .error failure => .ofFailure failure

theorem ofFailure_ne_frame (failure : Failure CaptureError) (frame : Frame) :
    ofFailure failure ≠ .frame frame := by
  cases failure <;> nofun

end Reading

namespace Session

variable {session : Session}

def reporting (session : Session) (reported : Bool) : Session :=
  { session with overlay := session.overlay.map fun overlay ↦ { overlay with reported } }

theorem eq_reporting (session : Session) : ∃ reported, session = session.reporting reported := by
  rcases session with ⟨_, _, _, _, _, _, _ | overlay, _, _⟩
  · exact ⟨false, rfl⟩
  · exact ⟨overlay.reported, rfl⟩

theorem drawPointer_gives : Gives (session.drawPointer h) fun drawn ↦
    ∀ after ∈ drawn, ∃ reported, after = session.reporting reported := by
  unfold drawPointer
  split
  · refine .pure ?_
    rintro _ ⟨⟩
    exact session.eq_reporting
  · next overlay ho =>
    refine .bind (overlay.draw_gives _ _) fun drawn hd ↦ .pure fun after hafter ↦ ?_
    obtain ⟨overlay', hmem, rfl⟩ := Option.map_eq_some_iff.mp hafter
    obtain ⟨reported, rfl⟩ := hd overlay' hmem
    exact ⟨reported, by rw [reporting, ho]; rfl⟩

theorem await_gives (pacer : Pacer) (nonblocking : Bool) (patience : Nat) :
    Gives (await h pacer nonblocking patience) fun
      | .due schedule now => schedule = pacer.schedule now ∧ schedule.IsDue
      | .refused => nonblocking = true
      | .unfinished => nonblocking = false := by
  induction patience with
  | zero =>
    rw [await_zero]
    refine .bind (.any _) fun now _ ↦ ?_
    dsimp only
    split
    · next hd => exact .pure ⟨rfl, hd⟩
    · split
      · next hn => exact .pure hn
      · next hn => exact .pure (Bool.eq_false_iff.mpr hn)
  | succ patience ih =>
    rw [await_succ]
    refine .bind (.any _) fun now _ ↦ ?_
    dsimp only
    split
    · next hd => exact .pure ⟨rfl, hd⟩
    · split
      · next hn => exact .pure hn
      · exact .bind (.any _) fun _ _ ↦ ih

theorem schedule_of_await {pacer : Pacer} {nonblocking : Bool} {patience : Nat}
    {schedule : Schedule} {now : Int} {w w' : ω}
    (hw : await h pacer nonblocking patience w = (.due schedule now, w')) :
    schedule = pacer.schedule now ∧ schedule.IsDue := by
  have hgives := await_gives (h := h) pacer nonblocking patience w
  rwa [hw] at hgives

/-- A read's outcome with the session after it. Only a frame moves the deadline and is counted. -/
inductive Turn (session : Session) : Reading → Session → Prop
  | idle {reading : Reading} (reported : Bool) (hr : ∀ frame, reading ≠ .frame frame) :
    Turn session reading (session.reporting reported)
  | taken {frame : Frame} (reported : Bool) (hd : (session.pacer.schedule frame.pts).IsDue)
    (hs : frame.sequence = session.sequence) :
    Turn session (.frame frame) { session.reporting reported with
      pacer := session.pacer.commit (session.pacer.schedule frame.pts)
      sequence := session.sequence + 1 }

theorem Turn.none {reading : Reading} (hr : ∀ frame, reading ≠ .frame frame) :
    session.Turn reading session := by
  obtain ⟨reported, he⟩ := session.eq_reporting
  have ht : session.Turn reading (session.reporting reported) := .idle reported hr
  rwa [← he] at ht

theorem Turn.of_frame {frame : Frame} {after : Session} (ht : session.Turn (.frame frame) after) :
    (session.pacer.schedule frame.pts).IsDue ∧
      after.pacer = session.pacer.commit (session.pacer.schedule frame.pts) ∧
      frame.sequence = session.sequence := by
  cases ht with
  | idle reported hr => exact absurd rfl (hr frame)
  | taken reported hd hs => exact ⟨hd, rfl, hs⟩

theorem Turn.of_failed {error : CaptureError} {after : Session}
    (ht : session.Turn (.failed error) after) :
    ∃ reported, after = session.reporting reported := by
  cases ht with
  | idle reported hr => exact ⟨reported, rfl⟩

theorem Turn.held_eq {reading : Reading} {after : Session} (ht : session.Turn reading after) :
    after.held = session.held := by
  cases ht <;> rfl

theorem Turn.makes_eq {reading : Reading} {after : Session} (ht : session.Turn reading after) :
    after.Makes = session.Makes := by
  cases ht <;> rfl

theorem tick_gives (now : Int) (hd : (session.pacer.schedule now).IsDue) :
    Gives (session.tick h (session.pacer.schedule now) now) fun (outcome, after) ↦
      match outcome with
      | .ok frame => frame.pts = now ∧ frame.layout = session.layout ∧
        session.Turn (.frame frame) after
      | .error failure => session.Turn (.ofFailure failure) after := by
  refine .bind (.any _) fun started _ ↦ .bind (.any _) fun copied _ ↦ ?_
  split
  · exact .pure (.none nofun)
  · refine .bind drawPointer_gives fun drawn hr ↦ ?_
    cases drawn with
    | none => exact .pure (.none nofun)
    | some after =>
      obtain ⟨reported, rfl⟩ := hr after rfl
      refine .bind (.any _) fun encoded _ ↦ ?_
      split
      · exact .pure (.idle reported nofun)
      · exact .bind (.any _) fun takenAt _ ↦ .bind (.any _) fun ended _ ↦
          .pure ⟨rfl, rfl, .taken reported hd rfl⟩

theorem read_gives (patience : Nat) : Gives (session.read h patience) fun (reading, after) ↦
    session.Turn reading after := by
  unfold read
  split
  · exact .pure (.none nofun)
  · refine .bind (.any _) fun _ _ ↦ .bind (await_gives _ _ _) fun waiting hw ↦ ?_
    cases waiting with
    | refused => exact .pure (.none nofun)
    | unfinished => exact .pure (.none nofun)
    | due schedule now =>
      obtain ⟨rfl, hd⟩ := hw
      refine .bind (tick_gives now hd) fun (outcome, after) ht ↦ ?_
      cases outcome with
      | ok frame => exact .pure ht.2.2
      | error failure => exact .pure ht

theorem read_turn (patience : Nat) (w : ω) :
    session.Turn (session.read h patience w).1.1 (session.read h patience w).1.2 :=
  read_gives patience w

theorem read_of_isClosed (hc : session.IsClosed) (patience : Nat) (w : ω) :
    session.read h patience w = ((.failed .closed, session), w) := by
  unfold read
  rw [if_pos hc]
  rfl

section

variable (hopen : ¬ session.IsClosed) {patience : Nat} {w w' : ω}
include hopen

theorem read_of_due {schedule : Schedule} {now : Int}
    (hw : await h session.pacer session.options.nonblocking patience (session.pump h w).2 =
      (.due schedule now, w')) :
    session.read h patience w =
      let ((outcome, after), w'') := session.tick h schedule now w'
      ((.ofTick outcome, after), w'') := by
  rcases hp : session.pump h w with ⟨_, w₁⟩
  rw [hp] at hw
  simp only [read, if_neg hopen, bind, StateT.bind, hp, hw]
  rcases session.tick h schedule now w' with ⟨⟨_ | _, _⟩, _⟩ <;> rfl

theorem read_of_refused
    (hw : await h session.pacer session.options.nonblocking patience (session.pump h w).2 =
      (.refused, w')) :
    session.read h patience w = ((.failed .wouldBlock, session), w') := by
  rcases hp : session.pump h w with ⟨_, w₁⟩
  rw [hp] at hw
  simp only [read, if_neg hopen, bind, StateT.bind, hp, hw]
  rfl

theorem read_of_unfinished
    (hw : await h session.pacer session.options.nonblocking patience (session.pump h w).2 =
      (.unfinished, w')) :
    session.read h patience w = ((.unfinished, session), w') := by
  rcases hp : session.pump h w with ⟨_, w₁⟩
  rw [hp] at hw
  simp only [read, if_neg hopen, bind, StateT.bind, hp, hw]
  rfl

end

theorem tick_related {P : ∀ ⦃α : Type⦄, StateM ω α → StateM ω' α → Prop}
    (hr : h.Related h' P session.Asks) (schedule : Schedule) (now : Int) :
    P (session.tick h schedule now) (session.tick h' schedule now) := by
  have hP := hr.composes
  have hcopies : h.Related h' P session.Copies := hr.mono fun _ ↦ Asks.of_copies
  refine hP.bind (hr.call .timer trivial) fun w ↦ hP.bind (blit_related hcopies) fun w₁ ↦ ?_
  split
  · exact hP.pure _
  · refine hP.bind (drawPointer_related hP (fun call hc ↦ hr.call call (.of_isPointers hc))
      fun line _ ↦ hr.log line) fun w₂ ↦ ?_
    have hgives : ∀ after ∈ (session.drawPointer h w₂).1,
        ∃ reported, after = session.reporting reported := drawPointer_gives w₂
    cases hd : (session.drawPointer h w₂).1 with
    | none => exact hP.pure _
    | some after =>
      obtain ⟨reported, rfl⟩ := hgives after hd
      have hr' : h.Related h' P (session.reporting reported).Asks := hr
      refine hP.bind (encode_related hr') fun w₃ ↦ ?_
      split
      · exact hP.pure _
      · exact hP.bind (hr.call .timer trivial) fun _ ↦
          hP.bind (hr.call .timer trivial) fun _ ↦ hP.pure _

theorem read_related {P : ∀ ⦃α : Type⦄, StateM ω α → StateM ω' α → Prop}
    (hr : h.Related h' P session.Asks) (patience : Nat) :
    P (session.read h patience) (session.read h' patience) := by
  have hP := hr.composes
  unfold read
  split
  · exact hP.pure _
  · have hcopies : h.Related h' P session.Copies := hr.mono fun _ ↦ Asks.of_copies
    refine hP.bind (pump_related hcopies) fun _ ↦ hP.bind (await_related hcopies _ _ _) fun w ↦ ?_
    split
    · exact hP.pure _
    · exact hP.pure _
    · refine hP.bind (tick_related hr _ _) fun w' ↦ ?_
      split <;> exact hP.pure _

end Session

end ScreenCapture

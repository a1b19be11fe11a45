import ScreenCapture.Display.Scripted
import ScreenCapture.Proofs.Tick
import ScreenCapture.Proofs.Waiting

namespace ScreenCapture.Session

variable {ω : Type} {h : Host ω} {session : Session} {patience : Nat} {w : ω}

/-- The session does not block, and its next frame is not due when the read looks at the clock. -/
def Refuses (h : Host ω) (session : Session) (w : ω) : Prop :=
  session.options.nonblocking = true ∧ (h.now (session.pump h w).2).1 < session.pacer.due

/-- What a tick gets from its source is an error that asks for another attempt. -/
def IsPostponed (h : Host ω) (session : Session) (patience : Nat) (w : ω) : Prop :=
  ∃ now error, session.Obtains h patience w now (.error (.error error)) ∧
    error.isRetryable = true

def AsksAgain (h : Host ω) (session : Session) (patience : Nat) (w : ω) : Prop :=
  ∃ error, (session.read h patience w).1.1 = .failed error ∧ error.isRetryable = true

theorem Refuses.await_eq (hr : session.Refuses h w) (patience : Nat) :
    await h session.pacer session.options.nonblocking patience (session.pump h w).2 =
      (.refused, (h.now (session.pump h w).2).2) := by
  rw [hr.1]
  exact await_of_refused rfl hr.2 patience

theorem refuses_of_await {w' : ω}
    (hw : await h session.pacer session.options.nonblocking patience (session.pump h w).2 =
      (.refused, w')) : session.Refuses h w := by
  have hgives := await_gives (h := h) session.pacer session.options.nonblocking patience
    (session.pump h w).2
  rw [hw] at hgives
  refine ⟨hgives, ?_⟩
  by_contra hdue
  rw [await_of_due rfl (Int.not_lt.mp hdue)] at hw
  cases hw

theorem asksAgain_iff (hopen : ¬ session.IsClosed) :
    session.AsksAgain h patience w ↔ session.Refuses h w ∨ session.IsPostponed h patience w := by
  constructor
  · rintro ⟨error, hread, hretry⟩
    have hending := session.read_ending (h := h) hopen patience w
    rw [hread] at hending
    cases hending with
    | refused hw => exact .inl (refuses_of_await hw)
    | failed ho => exact .inr ⟨_, error, ho, hretry⟩
    | misfit ho hsize => cases hretry
  · rintro (hr | ⟨now, error, ho, hretry⟩)
    · exact ⟨.wouldBlock, by rw [read_of_refused hopen (hr.await_eq patience)], rfl⟩
    · exact ⟨error, ho.reading_of_error hopen, hretry⟩

theorem Refuses.not_isPostponed (hr : session.Refuses h w) :
    ¬ session.IsPostponed h patience w := by
  rintro ⟨now, error, ⟨w', hw, -⟩, -⟩
  rw [hr.await_eq] at hw
  cases hw

theorem Shot.not_isRetryable_of_blit {error cause : CaptureError} {w w₁ : ω}
    (hs : session.Shot h w (.error (.error error)))
    (hb : h.blit session.target.captureRect w = (.error cause, w₁)) :
    error.isRetryable = false := by
  cases hs with
  | uncopied hb' =>
    exact CaptureError.isRetryable_asCapture _
  | uncoloured hb' _ =>
    rw [hb] at hb'
    cases hb'
  | unread hb' _ _ =>
    rw [hb] at hb'
    cases hb'

/-- A read that refuses to wait asks for another attempt, with nothing called but the outline and
the clock. So does the source itself, if that is how it fails when its colour table or its pixels
are read; a failure to copy is never passed on in this way. No other read asks. -/
theorem asks_again_iff_refuses_or_postponed (h : Host ω) (session : Session)
    (hopen : ¬ session.IsClosed) (patience : Nat) (w : ω) :
    (session.AsksAgain h patience w ↔ session.Refuses h w ∨ session.IsPostponed h patience w) ∧
    ((session.AsksAgain h patience w ↔ session.Refuses h w) ↔
      ¬ session.IsPostponed h patience w) ∧
    (session.Refuses h w → ∀ events, session.read h.traced patience ⟨w, events⟩ =
      ((.failed .wouldBlock, session),
        ⟨(h.now (session.pump h w).2).2, events ++ session.pumps ++ [⟨.now, true⟩]⟩)) ∧
    ∀ (now : Int) (w' w₁ : ω) (cause : CaptureError),
      await h session.pacer session.options.nonblocking patience (session.pump h w).2 =
          (.due (session.pacer.schedule now) now, w') →
        h.blit session.target.captureRect (h.timer w').2 = (.error cause, w₁) →
          ¬ session.AsksAgain h patience w := by
  have hiff : session.AsksAgain h patience w ↔
      session.Refuses h w ∨ session.IsPostponed h patience w := asksAgain_iff hopen
  refine ⟨hiff, ?_, fun hr events ↦ ?_, fun now w' w₁ cause hw hb hasks ↦ ?_⟩
  · rw [hiff]
    constructor
    · intro hrefuses hp
      exact (hrefuses.mp (.inr hp)).not_isPostponed hp
    · intro hp
      exact ⟨fun hor ↦ hor.resolve_right hp, .inl⟩
  · refine read_of_refused hopen ?_
    rw [pump_traced, hr.1]
    exact await_of_refused (now_traced rfl _) hr.2 patience
  · -- the wait was over, so this is not a refusal, and what stopped the tick is the copy
    rcases hiff.mp hasks with hr | ⟨now', error, ⟨w'', hw', hs⟩, hretry⟩
    · rw [hr.await_eq] at hw
      cases hw
    · rw [hw] at hw'
      obtain ⟨-, rfl⟩ := Prod.mk.inj hw'
      rw [hs.not_isRetryable_of_blit hb] at hretry
      cases hretry

def busyDisplay : ScriptedDisplay where
  monitors := [(⟨0, 0, 2, 2⟩, ⟨2, 2⟩, ⟨2, 2⟩)]
  virtualScreen := ⟨0, 0, 2, 2⟩
  windows := []
  depth := 32
  deviceScale := .identity
  faults := [(Call.pixels.name, .wouldBlock)]
  pointer := ⟨false, ⟨0, 0⟩, ⟨0, 0⟩⟩
  excess := 0
  surface := none
  blits := 0

theorem asks_again_iff_refuses_or_postponed_busyDisplay :
    let h := Host.assemble .scripted .manual
    let options := { CaptureOptions.standard with nonblocking := true }
    ∃ session w₀, start h options .desktop ⟨busyDisplay, .startingAt 1000000⟩ = (.ok session, w₀) ∧
      session.Refuses h w₀ ∧ session.AsksAgain h 1 w₀ ∧ ¬ session.IsPostponed h 1 w₀ ∧
      (session.read h.traced 1 ⟨w₀, []⟩).2.events = session.pumps ++ [⟨.now, true⟩] := by
  intro h options
  obtain ⟨session, w₀, hstart, heval⟩ := exists_started (h := h) options .desktop
    ⟨busyDisplay, .startingAt 1000000⟩ (a := (false, true, 1000000, .start .ntsc 1000000))
    (f := fun session w₀ ↦ (decide session.IsClosed, session.options.nonblocking,
      (h.now (session.pump h w₀).2).1, session.pacer)) (by decide +kernel)
  obtain ⟨hopen, hnonblocking, hnow, hpacer⟩ : decide session.IsClosed = false ∧
      session.options.nonblocking = true ∧ (h.now (session.pump h w₀).2).1 = 1000000 ∧
      session.pacer = .start .ntsc 1000000 := by
    simpa only [Prod.mk.injEq] using heval
  have hrefuses : session.Refuses h w₀ := by
    refine ⟨hnonblocking, ?_⟩
    rw [hnow, hpacer]
    decide
  obtain ⟨hasks, hexact, hread, -⟩ :=
    asks_again_iff_refuses_or_postponed h session (of_decide_eq_false hopen) 1 w₀
  have hasked : session.AsksAgain h 1 w₀ := hasks.mpr (.inl hrefuses)
  refine ⟨session, w₀, hstart, hrefuses, hasked, ?_, ?_⟩
  · exact hexact.mp ⟨fun _ ↦ hrefuses, fun _ ↦ hasked⟩
  · rw [hread hrefuses []]
    rfl

/-- A session that blocks, and that has copied its frame in time, is asked to try again. -/
theorem blocking_read_asks_again :
    let h := Host.assemble .scripted .manual
    ∃ session w₀,
      start h .standard .desktop ⟨busyDisplay, .startingAt 1000000⟩ = (.ok session, w₀) ∧
      ¬ session.IsClosed ∧ session.options.nonblocking = false ∧
      (session.read h 1 w₀).1.1 = .failed .wouldBlock ∧
      ¬ (session.AsksAgain h 1 w₀ ↔ session.Refuses h w₀) := by
  intro h
  obtain ⟨session, w₀, hstart, heval⟩ := exists_started (h := h) .standard .desktop
    ⟨busyDisplay, .startingAt 1000000⟩ (a := (false, false, true)) (f := fun session w₀ ↦
      (decide session.IsClosed, session.options.nonblocking,
        (session.read h 1 w₀).1.1 matches .failed .wouldBlock)) (by decide +kernel)
  obtain ⟨hopen, hblocking, hmatches⟩ : decide session.IsClosed = false ∧
      session.options.nonblocking = false ∧ _ = true := by
    simpa only [Prod.mk.injEq] using heval
  have hread : (session.read h 1 w₀).1.1 = .failed .wouldBlock := by
    split at hmatches
    · assumption
    · cases hmatches
  refine ⟨session, w₀, hstart, of_decide_eq_false hopen, hblocking, hread, fun hiff ↦ ?_⟩
  have hrefuses := hiff.mp ⟨.wouldBlock, hread, rfl⟩
  rw [Refuses, hblocking] at hrefuses
  cases hrefuses.1

end ScreenCapture.Session

import ScreenCapture.Proofs.PointerRecords
import ScreenCapture.Proofs.Replies

namespace ScreenCapture

variable {ω α β : Type}

/-- A world with the answers that it gave and with the record of what was done to it. -/
abbrev Watched (ω : Type) := Answered (Recording ω)

namespace Watched

def ofWorld (w : ω) : Watched ω := ⟨.ofWorld w, []⟩

def lines (s : Watched ω) : List LogLine := s.world.lines

end Watched

def Host.watched (h : Host ω) : Host (Watched ω) := h.recorded.answered

theorem Host.make_watched (h : Host ω) (call : Call) :
    h.watched.make call = Answered.note h.recorded call := by
  cases call <;> rfl

theorem Host.watched_related (h : Host ω) :
    h.watched.Related h (Agrees fun s w ↦ s.world.world = w) fun _ ↦ True where
  composes := Agrees.composes _
  call call _ s w hs := by
    subst hs
    cases call <;> exact ⟨rfl, rfl⟩
  log line s w hs := by
    subst hs
    exact ⟨rfl, rfl⟩

namespace Recording

variable (r : Recording ω)

theorem lines_add_call (call : Call) : (r.add (.call call)).lines = r.lines := by
  simp [lines, add]

theorem lines_add_log (line : LogLine) : (r.add (.log line)).lines = r.lines ++ [line] := by
  simp [lines, add]

end Recording

/-- What is answered to `act`, what it writes to the log, and its own answer are related by `Q`. -/
def Accounts (act : StateM (Watched ω) α) (Q : List Reply → List LogLine → α → Prop) : Prop :=
  ∀ s, ∃ made spoken, (act s).2.replies = s.replies ++ made ∧
    (act s).2.lines = s.lines ++ spoken ∧ Q made spoken (act s).1

namespace Accounts

section

variable {P : List Reply → List LogLine → α → Prop} {Q : List Reply → List LogLine → β → Prop}

theorem pure {a : α} (h : P [] [] a) : Accounts (Pure.pure a : StateM (Watched ω) α) P :=
  fun _ ↦ ⟨[], [], (List.append_nil _).symm, (List.append_nil _).symm, h⟩

theorem bindAt {act : StateM (Watched ω) α} {next : α → StateM (Watched ω) β}
    (h : Accounts act P)
    (hn : ∀ made spoken s, P made spoken (act s).1 →
      Accounts (next (act s).1) fun later said b ↦ Q (made ++ later) (spoken ++ said) b) :
    Accounts (act >>= next) Q := by
  intro s
  obtain ⟨made, spoken, hmade, hspoken, hp⟩ := h s
  obtain ⟨later, said, hlater, hsaid, hq⟩ := hn made spoken s hp (act s).2
  refine ⟨made ++ later, spoken ++ said, ?_, ?_, hq⟩
  · rw [← List.append_assoc, ← hmade]
    exact hlater
  · rw [← List.append_assoc, ← hspoken]
    exact hsaid

theorem bind {act : StateM (Watched ω) α} {next : α → StateM (Watched ω) β} (h : Accounts act P)
    (hn : ∀ made spoken a, P made spoken a →
      Accounts (next a) fun later said b ↦ Q (made ++ later) (spoken ++ said) b) :
    Accounts (act >>= next) Q :=
  h.bindAt fun made spoken s ↦ hn made spoken (act s).1

theorem mono {act : StateM (Watched ω) α} {P' : List Reply → List LogLine → α → Prop}
    (h : Accounts act P) (hp : ∀ made spoken a, P made spoken a → P' made spoken a) :
    Accounts act P' := by
  intro s
  obtain ⟨made, spoken, hmade, hspoken, hact⟩ := h s
  exact ⟨made, spoken, hmade, hspoken, hp _ _ _ hact⟩

end

section

variable {ε ε' : Type} {P : List Reply → List LogLine → Except ε α → Prop}
  {Q : List Reply → List LogLine → Except ε β → Prop}

theorem andThen {act : ExceptT ε (StateM (Watched ω)) α}
    {next : α → ExceptT ε (StateM (Watched ω)) β}
    (h : Accounts act.run P)
    (he : ∀ made spoken error, P made spoken (.error error) → Q made spoken (.error error))
    (hn : ∀ made spoken a, P made spoken (.ok a) →
      Accounts (next a).run fun later said b ↦ Q (made ++ later) (spoken ++ said) b) :
    Accounts (act >>= next).run Q := by
  change Accounts (act.run >>= ExceptT.bindCont next) Q
  refine h.bind fun made spoken result hp ↦ ?_
  cases result with
  | error error =>
    refine .pure ?_
    rw [List.append_nil, List.append_nil]
    exact he made spoken error hp
  | ok a => exact hn made spoken a hp

theorem adapt {act : ExceptT ε' (StateM (Watched ω)) α} {f : ε' → ε}
    (h : Accounts act.run fun made spoken result ↦ P made spoken (result.mapError f)) :
    Accounts (ExceptT.adapt f act).run P := h

end

variable (h : Host ω)

theorem make (call : Call) : Accounts (h.watched.make call) fun made spoken answer ↦
    made = [⟨call, answer⟩] ∧ spoken = [] := by
  intro s
  rw [h.make_watched]
  refine ⟨_, [], rfl, ?_, rfl, rfl⟩
  rw [List.append_nil]
  change (h.recorded.make call s.world).2.lines = s.world.lines
  rw [h.make_recorded]
  exact s.world.lines_add_call call

theorem log (line : LogLine) : Accounts (h.watched.log line) fun made spoken _ ↦
    made = [] ∧ spoken = [line] :=
  fun s ↦ ⟨[], [line], (List.append_nil _).symm, s.world.lines_add_log line, rfl, rfl⟩

theorem logThen {ε : Type} {Q : List Reply → List LogLine → Except ε β → Prop} (line : LogLine)
    {next : PUnit → ExceptT ε (StateM (Watched ω)) β}
    (hn : Accounts (next ⟨⟩).run fun made spoken b ↦ Q made (line :: spoken) b) :
    Accounts (liftM (h.watched.log line) >>= next).run Q := by
  change Accounts (h.watched.log line >>= fun a ↦ (next a).run) Q
  refine (log h line).bind ?_
  rintro made spoken ⟨⟩ ⟨rfl, rfl⟩
  exact hn

end Accounts

end ScreenCapture

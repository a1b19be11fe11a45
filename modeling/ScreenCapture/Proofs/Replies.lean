import ScreenCapture.Proofs.Calls

namespace ScreenCapture

variable {ω α β : Type}

structure Reply where
  call : Call
  answer : call.Answer

/-- A world with the answers to the calls that were made to it, the latest one last. -/
@[ext]
structure Answered (ω : Type) where
  world : ω
  replies : List Reply

namespace Answered

def onWorld (act : StateM ω α) : StateM (Answered ω) α := fun s ↦
  let (a, world) := act s.world
  (a, { s with world })

def note (h : Host ω) (call : Call) : StateM (Answered ω) call.Answer := fun s ↦
  let (answer, world) := h.make call s.world
  (answer, ⟨world, s.replies ++ [⟨call, answer⟩]⟩)

end Answered

open Answered in
/-- The same host in a world that remembers what was answered. -/
def Host.answered (h : Host ω) : Host (Answered ω) where
  monitors := note h .monitors
  virtualScreen := note h .virtualScreen
  findWindow title := note h (.findWindow title)
  windowRect window := note h (.windowRect window)
  clientRect window := note h (.clientRect window)
  openSource handle := note h (.openSource handle)
  createOutline rect := note h (.createOutline rect)
  pumpOutline := note h .pumpOutline
  release resource := note h (.release resource)
  depth := note h .depth
  deviceScale := note h .deviceScale
  allocateSurface layout := note h (.allocateSurface layout)
  blit rect := note h (.blit rect)
  readPalette size := note h (.readPalette size)
  pixels := note h .pixels
  pointer := note h .pointer
  drawPointer point := note h (.drawPointer point)
  now := note h .now
  sleep micros := note h (.sleep micros)
  timer := note h .timer
  log line := onWorld (h.log line)

def givingBack {ε : Type} (resource : Resource) : Except ε α → List Reply → List Reply
  | .ok _, made => made
  | .error _, made => made ++ [⟨.release resource, ()⟩]

/-- The answers that `act` gets, and its own, are related by `Q`. -/
def Tells (act : StateM (Answered ω) α) (Q : List Reply → α → Prop) : Prop :=
  ∀ s, ∃ made, (act s).2.replies = s.replies ++ made ∧ Q made (act s).1

namespace Tells

variable {P : List Reply → α → Prop} {Q : List Reply → β → Prop}

theorem pure {a : α} (h : P [] a) : Tells (Pure.pure a : StateM (Answered ω) α) P :=
  fun _ ↦ ⟨[], (List.append_nil _).symm, h⟩

theorem bind {act : StateM (Answered ω) α} {next : α → StateM (Answered ω) β} (h : Tells act P)
    (hn : ∀ made a, P made a → Tells (next a) fun later b ↦ Q (made ++ later) b) :
    Tells (act >>= next) Q := by
  intro s
  obtain ⟨made, hmade, hp⟩ := h s
  obtain ⟨later, hlater, hq⟩ := hn made _ hp (act s).2
  exact ⟨made ++ later, by rw [← List.append_assoc, ← hmade]; exact hlater, hq⟩

theorem onWorld (act : StateM ω α) : Tells (Answered.onWorld act) fun made _ ↦ made = [] :=
  fun _ ↦ ⟨[], (List.append_nil _).symm, rfl⟩

theorem note (h : Host ω) (call : Call) :
    Tells (Answered.note h call) fun made answer ↦ made = [⟨call, answer⟩] :=
  fun _ ↦ ⟨_, rfl, rfl⟩

theorem gives {act : StateM (Answered ω) α} {made? : List Reply → Prop} {answer? : α → Prop}
    (h : Tells act fun made _ ↦ made? made) (ha : Gives act answer?) :
    Tells act fun made a ↦ made? made ∧ answer? a := by
  intro s
  obtain ⟨made, hmade, hp⟩ := h s
  exact ⟨made, hmade, hp, ha s⟩

variable {ε : Type} {P : List Reply → Except ε α → Prop} {Q : List Reply → Except ε β → Prop}

theorem andThen {act : ExceptT ε (StateM (Answered ω)) α}
    {next : α → ExceptT ε (StateM (Answered ω)) β} (h : Tells act.run P)
    (he : ∀ made error, P made (.error error) → Q made (.error error))
    (hn : ∀ made a, P made (.ok a) → Tells (next a).run fun later b ↦ Q (made ++ later) b) :
    Tells (act >>= next).run Q := by
  change Tells (act.run >>= ExceptT.bindCont next) Q
  refine h.bind fun made result hp ↦ ?_
  cases result with
  | error error => exact .pure ((List.append_nil made).symm ▸ he made error hp)
  | ok a => exact hn made a hp

theorem lifted {act : StateM (Answered ω) β} {P : List Reply → β → Prop} (h : Tells act P)
    (hq : ∀ made b, P made b → Q made (.ok b)) :
    Tells (liftM act : ExceptT ε (StateM (Answered ω)) β).run Q := by
  change Tells (act >>= fun b ↦ return Except.ok b) Q
  refine h.bind fun made b hp ↦ .pure ?_
  rw [List.append_nil]
  exact hq made b hp

theorem lift {act : StateM (Answered ω) α} {P : List Reply → α → Prop} (h : Tells act P)
    {next : α → ExceptT ε (StateM (Answered ω)) β}
    (hn : ∀ made a, P made a → Tells (next a).run fun later b ↦ Q (made ++ later) b) :
    Tells (liftM act >>= next).run Q := by
  refine .andThen (P := fun made result ↦ ∃ a, result = .ok a ∧ P made a)
    (h.lifted fun made a hp ↦ ⟨a, rfl, hp⟩) ?_ ?_
  · rintro made error ⟨a, he, -⟩
    cases he
  · rintro made a ⟨b, he, hp⟩
    cases he
    exact hn made a hp

theorem result (r : Except ε α) {next : α → ExceptT ε (StateM (Answered ω)) β}
    (he : ∀ error, r = .error error → Q [] (.error error))
    (hn : ∀ a, r = .ok a → Tells (next a).run Q) : Tells (liftM r >>= next).run Q := by
  refine .andThen (P := fun made result ↦ made = [] ∧ r = result) (.pure ⟨rfl, rfl⟩) ?_ ?_
  · rintro made error ⟨rfl, hr⟩
    exact he error hr
  · rintro made a ⟨rfl, hr⟩
    exact hn a hr

theorem log (h : Host ω) (line : LogLine) {next : PUnit → ExceptT ε (StateM (Answered ω)) β}
    (hn : Tells (next ⟨⟩).run Q) : Tells (liftM (h.answered.log line) >>= next).run Q := by
  refine .lift (.onWorld (h.log line)) ?_
  rintro made _ rfl
  exact hn

theorem logs (h : Host ω) {items : List α} (line : α → LogLine)
    {next : PUnit → ExceptT ε (StateM (Answered ω)) β} (hn : Tells (next ⟨⟩).run Q) :
    Tells ((items.forM fun item ↦
      (h.answered.log (line item) : ExceptT ε (StateM (Answered ω)) PUnit)) >>= next).run Q := by
  induction items with
  | nil => exact hn
  | cons item items ih =>
    change Tells ((liftM (h.answered.log (line item)) >>= fun _ ↦ items.forM _) >>= next).run Q
    rw [bind_assoc]
    exact .log h (line item) ih

theorem embed {P : List Reply → Result α → Prop}
    {Q : List Reply → Except (Failure CaptureError) β → Prop}
    {act : Attempt (Answered ω) α} {next : α → Procedure (Answered ω) β} (h : Tells act.run P)
    (he : ∀ made error, P made (.error error) → Q made (.error (.error error)))
    (hn : ∀ made a, P made (.ok a) → Tells (next a).run fun later b ↦ Q (made ++ later) b) :
    Tells (liftM act >>= next : Procedure (Answered ω) β).run Q := by
  refine .andThen (P := fun made result ↦ ∃ r, P made r ∧ result = r.mapError .error)
    (h.bind fun made r hp ↦ .pure ⟨r, by rwa [List.append_nil], rfl⟩) ?_ ?_
  · rintro made failure ⟨error | a, hp, hr⟩
    · cases hr
      exact he made error hp
    · cases hr
  · rintro made a ⟨error | b, hp, hr⟩
    · cases hr
    · cases hr
      exact hn made _ hp

theorem check {Q : List Reply → Except (Failure CaptureError) β → Prop} (r : Result α)
    {next : α → Procedure (Answered ω) β}
    (he : ∀ error, r = .error error → Q [] (.error (.error error)))
    (hn : ∀ a, r = .ok a → Tells (next a).run Q) :
    Tells (liftM r >>= next : Procedure (Answered ω) β).run Q := by
  cases r with
  | error error => exact .pure (he error rfl)
  | ok a => exact hn a rfl

theorem holding {Q : List Reply → Except (Failure CaptureError) β → Prop} {h : Host ω}
    {resource : Resource} {act : Procedure (Answered ω) β}
    (ha : Tells act.run fun made result ↦ Q (givingBack resource result made) result) :
    Tells (h.answered.holding resource act).run Q := by
  intro s
  obtain ⟨made, hmade, hq⟩ := ha s
  change ∃ made', (h.answered.holding resource act s).2.replies = s.replies ++ made' ∧
    Q made' (h.answered.holding resource act s).1
  rw [Host.holding_apply]
  have hs : act.run s = act s := rfl
  rw [hs] at hmade hq
  rcases hr : act s with ⟨error | b, s'⟩
  · rw [hr] at hmade hq
    refine ⟨made ++ [⟨.release resource, ()⟩], ?_, hq⟩
    rw [← List.append_assoc, ← hmade]
    rfl
  · rw [hr] at hmade hq
    exact ⟨made, hmade, hq⟩

end Tells

/-- To be answered in a world that remembers is to be answered in the world. -/
theorem Host.answered_related (h : Host ω) :
    h.answered.Related h (Agrees fun s w ↦ s.world = w) fun _ ↦ True where
  composes := Agrees.composes _
  call call _ s w hs := by
    subst hs
    cases call <;> exact ⟨rfl, rfl⟩
  log line s w hs := by
    subst hs
    exact ⟨rfl, rfl⟩

end ScreenCapture

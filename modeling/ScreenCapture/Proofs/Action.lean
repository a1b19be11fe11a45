import ScreenCapture.Recording
import ScreenCapture.Session

namespace ScreenCapture

variable {ω ω' ε ε' α β : Type}

namespace Attempt

variable (act : ExceptT ε (StateM ω) α)

theorem bind_apply (next : α → ExceptT ε (StateM ω) β) (w : ω) :
    (act >>= next) w = match act w with
      | (.ok a, w) => next a w
      | (.error error, w) => (.error error, w) := by
  simp only [bind, ExceptT.bind, ExceptT.mk, StateT.bind, ExceptT.bindCont]
  rcases act w with ⟨_ | _, _⟩ <;> rfl

theorem tryCatch_apply (handler : ε → ExceptT ε (StateM ω) α) (w : ω) :
    tryCatch act handler w = match act w with
      | (.ok a, w) => (.ok a, w)
      | (.error error, w) => handler error w := by
  simp only [tryCatch, tryCatchThe, MonadExceptOf.tryCatch, ExceptT.tryCatch, ExceptT.mk, bind,
    StateT.bind]
  rcases act w with ⟨_ | _, _⟩ <;> rfl

theorem adapt_apply (f : ε → ε') (w : ω) :
    ExceptT.adapt f act w = ((act w).1.mapError f, (act w).2) := rfl

theorem embed_apply (act : Attempt ω α) (w : ω) :
    (liftM act : Procedure ω α) w = ((act w).1.mapError .error, (act w).2) := rfl

theorem run_tryCatch (handler : ε → ExceptT ε (StateM ω) α) :
    (tryCatch act handler).run = act.run >>= fun
      | .ok a => return Except.ok a
      | .error error => (handler error).run := by
  funext w
  refine (tryCatch_apply act handler w).trans ?_
  simp only [bind, StateT.bind, ExceptT.run]
  rcases act w with ⟨_ | _, _⟩ <;> rfl

end Attempt

theorem Host.holding_apply (h : Host ω) (resource : Resource) (act : Procedure ω α) (w : ω) :
    h.holding resource act w = match act w with
      | (.ok a, w) => (.ok a, w)
      | (.error failure, w) => (.error failure, (h.release resource w).2) := by
  unfold Host.holding
  rw [Attempt.tryCatch_apply]
  rcases act w with ⟨_ | _, _⟩ <;> rfl

/-- Whatever the world, `act` answers with something that has the property `P`. -/
def Gives (act : StateM ω α) (P : α → Prop) : Prop := ∀ w, P (act w).1

namespace Gives

variable {P : α → Prop} {Q : β → Prop}

theorem any (act : StateM ω α) : Gives act fun _ ↦ True := fun _ ↦ trivial

theorem answer (act : StateM ω α) : Gives act fun a ↦ ∃ w, a = (act w).1 := fun w ↦ ⟨w, rfl⟩

theorem pure {a : α} (h : P a) : Gives (Pure.pure a : StateM ω α) P := fun _ ↦ h

theorem bind {act : StateM ω α} {next : α → StateM ω β} (h : Gives act P)
    (h' : ∀ a, P a → Gives (next a) Q) : Gives (act >>= next) Q :=
  fun w ↦ h' _ (h w) _

end Gives

/-- A relation between operations on two worlds that holds if neither does anything, and that is
kept by doing one thing after another. -/
structure Composes (P : ∀ ⦃α : Type⦄, StateM ω α → StateM ω' α → Prop) : Prop where
  pure {α : Type} (a : α) : P (Pure.pure a : StateM ω α) (Pure.pure a : StateM ω' α)
  bind {α β : Type} {act : StateM ω α} {act' : StateM ω' α} {next : α → StateM ω β}
    {next' : α → StateM ω' β} : P act act' → (∀ w, P (next (act w).1) (next' (act w).1)) →
      P (act >>= next) (act' >>= next')

namespace Composes

variable {P : ∀ ⦃α : Type⦄, StateM ω α → StateM ω' α → Prop} (hP : Composes P)
include hP

theorem succeed (a : α) : P (Pure.pure a : ExceptT ε (StateM ω) α).run
    (Pure.pure a : ExceptT ε (StateM ω') α).run :=
  hP.pure (Except.ok a)

theorem fail (error : ε) : P (throw error : ExceptT ε (StateM ω) α).run
    (throw error : ExceptT ε (StateM ω') α).run :=
  hP.pure (Except.error error)

theorem result {m : Type → Type} [MonadLiftT m (Except ε)] (r : m α) :
    P (liftM r : ExceptT ε (StateM ω) α).run (liftM r : ExceptT ε (StateM ω') α).run :=
  hP.pure (liftM r : Except ε α)

theorem lift {act : StateM ω α} {act' : StateM ω' α} (h : P act act') :
    P (liftM act : ExceptT ε (StateM ω) α).run (liftM act' : ExceptT ε (StateM ω') α).run := by
  change P (act >>= fun a ↦ return Except.ok a) (act' >>= fun a ↦ return Except.ok a)
  exact hP.bind h fun _ ↦ hP.pure _

variable {act : ExceptT ε (StateM ω) α} {act' : ExceptT ε (StateM ω') α}
  (h : P act.run act'.run)
include h

theorem andThen {next : α → ExceptT ε (StateM ω) β}
    {next' : α → ExceptT ε (StateM ω') β} (h' : ∀ a, P (next a).run (next' a).run) :
    P (act >>= next).run (act' >>= next').run := by
  change P (act.run >>= ExceptT.bindCont next) (act'.run >>= ExceptT.bindCont next')
  refine hP.bind h fun w ↦ ?_
  rcases (act.run w).1 with error | a
  · exact hP.pure _
  · exact h' a

theorem orElse {handler : ε → ExceptT ε (StateM ω) α}
    {handler' : ε → ExceptT ε (StateM ω') α}
    (h' : ∀ error, P (handler error).run (handler' error).run) :
    P (tryCatch act handler).run (tryCatch act' handler').run := by
  rw [Attempt.run_tryCatch, Attempt.run_tryCatch]
  refine hP.bind h fun w ↦ ?_
  rcases (act.run w).1 with error | a
  · exact h' error
  · exact hP.pure _

theorem adapt (f : ε → ε') :
    P (ExceptT.adapt f act).run (ExceptT.adapt f act').run := by
  change P (act.run >>= fun r ↦ return r.mapError f) (act'.run >>= fun r ↦ return r.mapError f)
  exact hP.bind h fun _ ↦ hP.pure _

omit h in
theorem embed {act : Attempt ω α} {act' : Attempt ω' α} (h : P act.run act'.run) :
    P (liftM act : Procedure ω α).run (liftM act' : Procedure ω' α).run :=
  hP.adapt h Failure.error

omit h in
theorem forM {items : List β} {body : β → Attempt ω PUnit} {body' : β → Attempt ω' PUnit}
    (h : ∀ b, P (body b).run (body' b).run) : P (items.forM body).run (items.forM body').run := by
  induction items with
  | nil => exact hP.succeed _
  | cons b items ih => exact hP.andThen (h b) fun _ ↦ ih

end Composes

/-- In worlds that are related by `R` the two operations answer the same, and they leave related
worlds. -/
def Agrees (R : ω → ω' → Prop) ⦃α : Type⦄ (act : StateM ω α) (act' : StateM ω' α) : Prop :=
  ∀ w w', R w w' → (act w).1 = (act' w').1 ∧ R (act w).2 (act' w').2

theorem Agrees.composes (R : ω → ω' → Prop) : Composes (Agrees R) where
  pure _ _ _ hw := ⟨rfl, hw⟩
  bind {α β act act' next next'} hfirst hnext w w' hw := by
    obtain ⟨hanswer, hafter⟩ := hfirst w w' hw
    have hrest := hnext w _ _ hafter
    rw [hanswer] at hrest
    change (next (act w).1 (act w).2).1 = _ ∧ R (next (act w).1 (act w).2).2 _
    rw [hanswer]
    exact hrest

/-- Where `act` succeeds, its answer has the property `P`. -/
def Answers (act : ExceptT ε (StateM ω) α) (P : α → Prop) : Prop := ∀ w a, (act w).1 = .ok a → P a

namespace Answers

variable {P : α → Prop} {Q : β → Prop}

theorem any (act : ExceptT ε (StateM ω) α) : Answers act fun _ ↦ True := fun _ _ _ ↦ trivial

theorem succeed {a : α} (h : P a) : Answers (Pure.pure a : ExceptT ε (StateM ω) α) P := by
  intro w b hb
  cases hb
  exact h

theorem fail (error : ε) : Answers (throw error : ExceptT ε (StateM ω) α) P := nofun

theorem result (r : Except ε α) :
    Answers (liftM r : ExceptT ε (StateM ω) α) fun a ↦ r = .ok a := fun _ _ ha ↦ ha

theorem lift {act : StateM ω α} (h : Gives act P) :
    Answers (liftM act : ExceptT ε (StateM ω) α) P := by
  intro w a ha
  cases ha
  exact h w

theorem andThen {act : ExceptT ε (StateM ω) α} {next : α → ExceptT ε (StateM ω) β}
    (h : Answers act P) (h' : ∀ a, P a → Answers (next a) Q) : Answers (act >>= next) Q := by
  intro w b hb
  rw [Attempt.bind_apply] at hb
  rcases he : act w with ⟨error | a, w'⟩
  · rw [he] at hb
    cases hb
  · rw [he] at hb
    exact h' a (h w a (by rw [he])) w' b hb

theorem embed {act : Attempt ω α} (h : Answers act P) :
    Answers (liftM act : Procedure ω α) P := by
  intro w a ha
  change ((act w).1.mapError Failure.error) = .ok a at ha
  cases he : (act w).1 with
  | error _ =>
    rw [he] at ha
    cases ha
  | ok b =>
    rw [he] at ha
    cases ha
    exact h w _ he

theorem check (r : Result α) : Answers (liftM r : Procedure ω α) fun a ↦ r = .ok a := by
  intro w a ha
  change r.mapError Failure.error = .ok a at ha
  cases r with
  | error _ => cases ha
  | ok b =>
    cases ha
    rfl

theorem holding {h : Host ω} {resource : Resource} {act : Procedure ω α} (ha : Answers act P) :
    Answers (h.holding resource act) P := by
  intro w a hw
  rw [Host.holding_apply] at hw
  rcases he : act w with ⟨error | b, w'⟩
  · rw [he] at hw
    cases hw
  · rw [he] at hw
    cases hw
    exact ha w a (by rw [he])

end Answers

end ScreenCapture

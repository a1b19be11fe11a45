import ScreenCapture.Clock.Manual
import ScreenCapture.Display.InMemory
import ScreenCapture.Proofs.Opening
import ScreenCapture.Proofs.Trace
import Mathlib.Algebra.Order.Floor.Div

namespace ScreenCapture

variable {ω : Type}

theorem ManualClock.now_sleep (clock : ManualClock) {micros : Int}
    (hleast : Micros.least ≤ clock.now) (hpos : 0 < micros)
    (hgreatest : clock.now + micros ≤ Micros.greatest) :
    (clock.sleep micros).now = clock.now + micros := by
  simp only [Micros.least, Micros.greatest] at hleast hgreatest
  rw [ManualClock.sleep, if_pos hpos]
  exact Int.bmod_eq_of_le (by omega) (by omega)

namespace Clock

variable (clock : Clock ω) (stride : Nat)

/-- Whenever it can be told when a sleep should end, the sleep takes the time it is asked to, or
`stride` if that is less, or any time longer than that. -/
def Advances : Prop :=
  ∀ w micros, Micros.least ≤ (clock.now w).1 → 0 < micros → micros ≤ Micros.greatest →
    (clock.now w).1 + micros ≤ Micros.greatest →
      (clock.now w).1 + min micros stride ≤ (clock.now (clock.sleep micros (clock.now w).2).2).1

def AdvancesExactly : Prop :=
  ∀ w micros, Micros.least ≤ (clock.now w).1 → 0 < micros → micros ≤ Micros.greatest →
    (clock.now w).1 + micros ≤ Micros.greatest →
      (clock.now (clock.sleep micros (clock.now w).2).2).1 = (clock.now w).1 + min micros stride

def inStrides : Clock ManualClock :=
  { manual with sleep micros := modify (.sleep (min micros stride)) }

variable {clock stride}

theorem AdvancesExactly.advances (hc : clock.AdvancesExactly stride) : clock.Advances stride :=
  fun w micros hleast hpos hlong hgreatest ↦ (hc w micros hleast hpos hlong hgreatest).ge

theorem inStrides_advancesExactly (hpos : 0 < stride) :
    (inStrides stride).AdvancesExactly stride := by
  intro clock micros hleast hmicros hlong hgreatest
  have hleast : Micros.least ≤ clock.now := hleast
  have hgreatest : clock.now + micros ≤ Micros.greatest := hgreatest
  exact clock.now_sleep hleast (by omega) (by omega)

end Clock

theorem Host.assemble_advancesExactly {δ κ : Type} {screen : Screen δ} {clock : Clock κ}
    {stride : Nat} (hc : clock.AdvancesExactly stride) :
    (Host.assemble screen clock).AdvancesExactly stride :=
  fun w ↦ hc w.clock

variable {h : Host ω}

namespace Session

theorem await_of_due {pacer : Pacer} {now : Int} {w w' : ω} (hn : h.now w = (now, w'))
    (hd : pacer.due ≤ now) (nonblocking : Bool) (patience : Nat) :
    await h pacer nonblocking patience w = (.due (pacer.schedule now) now, w') := by
  have hdue := (pacer.isDue_iff now).mpr hd
  cases patience with
  | zero =>
    simp only [await_zero, bind, StateT.bind, hn, if_pos hdue]
    rfl
  | succ patience =>
    simp only [await_succ, bind, StateT.bind, hn, if_pos hdue]
    rfl

theorem await_of_early {pacer : Pacer} {now : Int} {w w' : ω} (hn : h.now w = (now, w'))
    (hd : now < pacer.due) (patience : Nat) :
    await h pacer false (patience + 1) w =
      await h pacer false patience (h.sleep (min (pacer.due - now) Micros.greatest) w').2 := by
  have hearly := (pacer.isDue_iff now).not.mpr (Int.not_le.mpr hd)
  rw [← pacer.schedule_delay hd]
  simp only [await_succ, bind, StateT.bind, hn, if_neg hearly]
  rfl

theorem await_of_refused {pacer : Pacer} {now : Int} {w w' : ω} (hn : h.now w = (now, w'))
    (hd : now < pacer.due) (patience : Nat) :
    await h pacer true patience w = (.refused, w') := by
  have hearly := (pacer.isDue_iff now).not.mpr (Int.not_le.mpr hd)
  cases patience with
  | zero =>
    simp only [await_zero, bind, StateT.bind, hn, if_neg hearly]
    rfl
  | succ patience =>
    simp only [await_succ, bind, StateT.bind, hn, if_neg hearly]
    rfl

/-- The clock tells `times`, all of them too early, with a sleep after each for the time that is
left, and then `now`. -/
inductive Wait (h : Host ω) (pacer : Pacer) : ω → List Int → Int → ω → Prop
  | due {now : Int} {w w' : ω} :
    h.now w = (now, w') → pacer.due ≤ now → Wait h pacer w [] now w'
  | sleep {first now : Int} {times : List Int} {w w₁ w' : ω} :
    h.now w = (first, w₁) → first < pacer.due →
      Wait h pacer (h.sleep (min (pacer.due - first) Micros.greatest) w₁).2 times now w' →
      Wait h pacer w (first :: times) now w'

theorem exists_wait {stride : Nat} (hclock : h.Advances stride) (hlong : stride ≤ Micros.greatest)
    {pacer : Pacer} (hgreatest : pacer.due ≤ Micros.greatest) (n : Nat) (w : ω)
    (hleast : Micros.least ≤ (h.now w).1) (hn : pacer.due - (h.now w).1 ≤ n * stride) :
    ∃ times now w', Wait h pacer w times now w' ∧ times.length ≤ n := by
  -- each sleep uses up a stride, or is the last one
  induction n generalizing w with
  | zero =>
    rcases hnow : h.now w with ⟨now, w'⟩
    rw [hnow] at hn
    exact ⟨[], now, w', .due hnow (by omega), Nat.le_refl _⟩
  | succ n ih =>
    have hslept := hclock w
    rcases hnow : h.now w with ⟨first, w₁⟩
    simp only [hnow] at hleast hn hslept
    rcases Int.lt_or_le first pacer.due with hearly | hdue
    · have hpos : 0 < Micros.greatest := by decide
      have hrest := Int.mul_nonneg (Int.natCast_nonneg n) (Int.natCast_nonneg stride)
      have hlater := hslept (min (pacer.due - first) Micros.greatest) hleast (by omega) (by omega)
        (by omega)
      rw [Nat.cast_succ, Int.add_mul, Int.one_mul] at hn
      obtain ⟨times, now, w', hw, hl⟩ := ih (h.sleep (min (pacer.due - first) Micros.greatest) w₁).2
        (by omega) (by omega)
      exact ⟨_, now, w', .sleep hnow hearly hw, Nat.succ_le_succ hl⟩
    · exact ⟨[], first, w₁, .due hnow hdue, Nat.zero_le _⟩

theorem ceilDiv_eq_succ {n stride : Nat} (hn : 0 < n) (hs : 0 < stride) :
    n ⌈/⌉ stride = (n - stride) ⌈/⌉ stride + 1 := by
  have hfirst : n + stride - 1 = n - 1 + stride := by omega
  rw [Nat.ceilDiv_eq_add_pred_div, Nat.ceilDiv_eq_add_pred_div, hfirst, Nat.add_div_right _ hs]
  rcases Nat.lt_or_ge n stride with hless | hmore
  · rw [Nat.div_eq_of_lt (by omega), Nat.div_eq_of_lt (by omega)]
  · rw [show n - stride + stride - 1 = n - 1 by omega]

namespace Wait

variable {pacer : Pacer} {w w' : ω} {times : List Int} {now : Int}

theorem early (hw : Wait h pacer w times now w') : ∀ time ∈ times, time < pacer.due := by
  induction hw with
  | due => simp
  | sleep _ hearly _ ih => exact List.forall_mem_cons.mpr ⟨hearly, ih⟩

theorem due_le (hw : Wait h pacer w times now w') : pacer.due ≤ now := by
  induction hw with
  | due _ hdue => exact hdue
  | sleep _ _ _ ih => exact ih

theorem await_eq (hw : Wait h pacer w times now w') {patience : Nat}
    (hp : times.length ≤ patience) :
    await h pacer false patience w = (.due (pacer.schedule now) now, w') := by
  induction hw generalizing patience with
  | due hn hdue => exact await_of_due hn hdue false patience
  | sleep hn hearly _ ih =>
    cases patience with
    | zero => simp at hp
    | succ patience => rw [await_of_early hn hearly, ih (Nat.le_of_succ_le_succ hp)]

theorem of_exact {stride : Nat} (hclock : h.AdvancesExactly stride) (hpos : 0 < stride)
    (hlong : stride ≤ Micros.greatest) (hgreatest : pacer.due ≤ Micros.greatest)
    (hw : Wait h pacer w times now w') (hleast : Micros.least ≤ (h.now w).1) :
    times.length = (pacer.due - (h.now w).1).toNat ⌈/⌉ stride ∧
      now = max (h.now w).1 pacer.due := by
  induction hw with
  | @due now w w' hn hdue =>
    rw [hn]
    have hnone : (pacer.due - now).toNat = 0 := by omega
    exact ⟨by rw [hnone, zero_ceilDiv]; rfl, by omega⟩
  | @sleep first now times w w₁ w' hn hearly _ ih =>
    -- the sleep leaves a stride less to go, and nothing if there was no more than that
    have hslept := hclock w
    simp only [hn] at hleast hslept ⊢
    have hgreatest_pos : 0 < Micros.greatest := by decide
    have hlater := hslept (min (pacer.due - first) Micros.greatest) hleast (by omega) (by omega)
      (by omega)
    obtain ⟨hlength, hnow⟩ := ih (by omega)
    rw [hlater] at hlength hnow
    constructor
    · rw [ceilDiv_eq_succ (by omega) hpos, List.length_cons, hlength]
      congr 2
      omega
    · omega

end Wait

variable {session : Session}

def unblocked (session : Session) : Session :=
  { session with options := { session.options with nonblocking := true } }

theorem drawPointer_unblocked (w : ω) : session.unblocked.drawPointer h w =
    ((session.drawPointer h w).1.map unblocked, (session.drawPointer h w).2) := by
  rcases session with ⟨_, topology, target, _, _, _, _ | overlay, _, _⟩
  · rfl
  · simp only [drawPointer, unblocked, bind, StateT.bind]
    rcases overlay.draw h topology target.captureRect w with ⟨_ | after, w'⟩
    · rfl
    · rfl

theorem tick_unblocked (schedule : Schedule) (now : Int) (w : ω) :
    session.unblocked.tick h schedule now w =
      let ((outcome, after), w') := session.tick h schedule now w
      ((outcome, after.unblocked), w') := by
  -- nothing that a tick does looks at the options
  rcases ht : h.timer w with ⟨started, w₀⟩
  have hblit : session.unblocked.blit h = session.blit h := rfl
  rcases hb : session.blit h w₀ with ⟨error | _, w₁⟩
  · simp only [tick, bind, StateT.bind, ExceptT.run, ht, hblit, hb]
    rfl
  · have hdraw := session.drawPointer_unblocked (h := h) w₁
    rcases hd : session.drawPointer h w₁ with ⟨_ | drawn, w₂⟩
    · rw [hd] at hdraw
      simp only [tick, bind, StateT.bind, ExceptT.run, ht, hblit, hb, hdraw, hd]
      rfl
    rw [hd, Option.map_some] at hdraw
    have hencode : drawn.unblocked.encode h = drawn.encode h := rfl
    rcases he : drawn.encode h w₂ with ⟨error | data, w₃⟩
    · simp only [tick, bind, StateT.bind, ExceptT.run, ht, hblit, hb, hdraw, hd, hencode, he]
      rfl
    · simp only [tick, bind, StateT.bind, ExceptT.run, ht, hblit, hb, hdraw, hd, hencode, he]
      rfl

def naps (pacer : Pacer) (times : List Int) : List Event :=
  times.flatMap fun time ↦
    [⟨.now, true⟩, ⟨.sleep (min (pacer.due - time) Micros.greatest), true⟩]

@[simp]
theorem naps_nil (pacer : Pacer) : naps pacer [] = [] := rfl

@[simp]
theorem naps_cons (pacer : Pacer) (time : Int) (times : List Int) : naps pacer (time :: times) =
    ⟨.now, true⟩ :: ⟨.sleep (min (pacer.due - time) Micros.greatest), true⟩ :: naps pacer times :=
  rfl

theorem Wait.traced {pacer : Pacer} {w w' : ω} {times : List Int} {now : Int}
    (hw : Wait h pacer w times now w') (events : List Event) :
    Wait h.traced pacer ⟨w, events⟩ times now
      ⟨w', events ++ naps pacer times ++ [⟨.now, true⟩]⟩ := by
  induction hw generalizing events with
  | due hn hdue =>
    rw [naps_nil, List.append_nil]
    exact .due (now_traced hn events) hdue
  | @sleep first now times w w₁ w' hn hearly _ ih =>
    have hnaps : events ++ naps pacer (first :: times) = events ++ [⟨.now, true⟩] ++
        [⟨.sleep (min (pacer.due - first) Micros.greatest), true⟩] ++ naps pacer times := by
      simp
    rw [hnaps]
    exact .sleep (now_traced hn events) hearly (ih _)

theorem Wait.exists_now {δ κ : Type} {screen : Screen δ} {clock : Clock κ} {pacer : Pacer}
    {w w' : World δ κ} {times : List Int} {now : Int}
    (hw : Wait (.assemble screen clock) pacer w times now w') :
    ∃ late, (Host.assemble screen clock).now ⟨w.screen, late⟩ = (now, w') := by
  induction hw with
  | @due now w w' hn hdue => exact ⟨w.clock, hn⟩
  | sleep hn _ _ ih =>
    obtain ⟨late, hlate⟩ := ih
    cases hn
    exact ⟨late, hlate⟩

/-- Where the screen does not notice that time passes, there is a world in which the session is read
for the first time when the wait is over. -/
theorem Wait.exists_late {δ κ : Type} {screen : Screen δ} {clock : Clock κ} {w w' : World δ κ}
    {times : List Int} {now : Int} (hw : Wait (.assemble screen clock) session.pacer
      (session.pump (.assemble screen clock) w).2 times now w') :
    ∃ late, (Host.assemble screen clock).now
      (session.pump (.assemble screen clock) ⟨w.screen, late⟩).2 = (now, w') := by
  obtain ⟨late, hlate⟩ := hw.exists_now
  have hpump : (session.pump (.assemble screen clock) ⟨w.screen, late⟩).2 =
      ⟨(session.pump (.assemble screen clock) w).2.screen, late⟩ := by
    unfold pump
    split
    · rfl
    · rfl
  exact ⟨late, hpump ▸ hlate⟩

theorem tick_traced (session : Session) (schedule : Schedule) (now : Int) (w : ω) :
    ∃ taking, ∀ events, session.tick h.traced schedule now ⟨w, events⟩ =
      ((session.tick h schedule now w).1,
        ⟨(session.tick h schedule now w).2, events ++ taking⟩) := by
  have hrecords : Records session.Asks (session.tick h.traced schedule now)
      (session.tick h schedule now) :=
    tick_related (h.traced_related fun _ hc ↦ hc) schedule now
  obtain ⟨taking, -, htick⟩ := hrecords w
  exact ⟨taking, htick⟩

/-- As long as every sleep takes a stride or all the time that is left, a read of a session that
blocks is done with waiting after as many sleeps as there are strides to go. From then on it calls,
answers and leaves what the same session would, if it did not block and were read at that time. -/
theorem blocking_is_waiting_then_reading (h : Host ω) (stride : Nat) (hpos : 0 < stride)
    (hlong : stride ≤ Micros.greatest) (hclock : h.Advances stride) (session : Session)
    (hopen : ¬ session.IsClosed) (hblocking : session.options.nonblocking = false)
    (hgreatest : session.pacer.due ≤ Micros.greatest) (w : ω)
    (hleast : Micros.least ≤ (h.now (session.pump h w).2).1) :
    let arrival := (h.now (session.pump h w).2).1
    let due := session.pacer.due
    let bound := (due - arrival).toNat ⌈/⌉ stride
    ∃ times now w', Wait h session.pacer (session.pump h w).2 times now w' ∧
      times.length ≤ bound ∧ (∀ time ∈ times, 0 < min (due - time) Micros.greatest) ∧
      (h.AdvancesExactly stride → times.length = bound ∧ now = max arrival due) ∧
      ∃ reading after w'' taking, reading ≠ .unfinished ∧
        (∀ frame, reading = .frame frame → frame.pts = now) ∧
        (∀ patience events, bound ≤ patience →
          session.read h.traced patience ⟨w, events⟩ = ((reading, after),
            ⟨w'', events ++ session.pumps ++ naps session.pacer times ++ [⟨.now, true⟩] ++
              taking⟩)) ∧
        ∀ patience w₂ events, h.now (session.pump h w₂).2 = (now, w') →
          session.unblocked.read h.traced patience ⟨w₂, events⟩ = ((reading, after.unblocked),
            ⟨w'', events ++ session.pumps ++ [⟨.now, true⟩] ++ taking⟩) := by
  intro arrival due bound
  have hbound : due - arrival ≤ bound * stride := by
    have hceil : (due - arrival).toNat ≤ stride * bound := (ceilDiv_le_iff_le_mul hpos).mp le_rfl
    have hcast : ((stride * bound : Nat) : Int) = bound * stride := by
      rw [Nat.cast_mul, Int.mul_comm]
    omega
  obtain ⟨times, now, w', hw, hlength⟩ := exists_wait hclock hlong hgreatest bound _ hleast hbound
  have hdue : (session.pacer.schedule now).IsDue := (session.pacer.isDue_iff now).mpr hw.due_le
  -- both reads end in the same tick, for which only the option that tells them apart differs
  have hgives := session.tick_gives (h := h) now hdue w'
  obtain ⟨taking, htick⟩ := session.tick_traced (h := h) (session.pacer.schedule now) now w'
  rcases ht : session.tick h (session.pacer.schedule now) now w' with ⟨⟨outcome, after⟩, w''⟩
  simp only [ht] at hgives htick
  refine ⟨times, now, w', hw, hlength, ?_, ?_, .ofTick outcome, after, w'', taking, ?_, ?_, ?_, ?_⟩
  · intro time hmem
    have hearly := hw.early time hmem
    have hpositive : 0 < Micros.greatest := by decide
    omega
  · exact fun hexact ↦ hw.of_exact hexact hpos hlong hgreatest hleast
  · rcases outcome with (error | _) | frame
    · exact nofun
    · exact nofun
    · exact nofun
  · intro frame hframe
    cases outcome with
    | error failure => exact absurd hframe (Reading.ofFailure_ne_frame failure frame)
    | ok taken =>
      cases hframe
      exact hgives.1
  · intro patience events hpatience
    have hwait := (hw.traced (events ++ session.pumps)).await_eq (hlength.trans hpatience)
    rw [← hblocking] at hwait
    rw [read_of_due hopen (by rw [pump_traced]; exact hwait), htick]
  · intro patience w₂ events hnow
    have hopen' : ¬ session.unblocked.IsClosed := hopen
    have hwait := await_of_due (now_traced hnow (events ++ session.pumps)) hw.due_le true patience
    have htick' := session.tick_unblocked (h := h.traced) (session.pacer.schedule now) now
      ⟨w', events ++ session.pumps ++ [⟨.now, true⟩]⟩
    rw [htick] at htick'
    rw [read_of_due hopen' (by rw [pump_traced]; exact hwait)]
    exact congrArg (fun r ↦ ((Reading.ofTick r.1.1, r.1.2), r.2)) htick'

theorem blocking_is_waiting_then_reading_twoByTwo :
    let h := Host.assemble .inMemory (.inStrides 15000)
    let options := { CaptureOptions.standard with showRegion := true }
    ∃ session w₀ frame after s late s',
      start h options .desktop ⟨.twoByTwo, .startingAt 1000⟩ = (.ok session, w₀) ∧
      session.read h.traced 3 ⟨w₀, []⟩ = ((.frame frame, after), s) ∧ frame.pts = 34366 ∧
      session.unblocked.read h.traced 0 ⟨⟨w₀.screen, late⟩, []⟩ =
        ((.frame frame, after.unblocked), s') := by
  intro h options
  obtain ⟨session, w₀, hstart, heval⟩ := exists_started (h := h) options .desktop
    ⟨.twoByTwo, .startingAt 1000⟩ (a := (.start .ntsc 1000, false, false, 1000, true))
    (f := fun session w₀ ↦ (session.pacer, decide session.IsClosed, session.options.nonblocking,
      (h.now (session.pump h w₀).2).1, (session.read h.traced 3 ⟨w₀, []⟩).1.1.frame?.isSome))
    (by decide +kernel)
  obtain ⟨hpacer, hopen, hblocking, harrival, htaken⟩ :
      session.pacer = .start .ntsc 1000 ∧ decide session.IsClosed = false ∧
      session.options.nonblocking = false ∧ (h.now (session.pump h w₀).2).1 = 1000 ∧ _ = true := by
    simpa only [Prod.mk.injEq] using heval
  have hdue : session.pacer.due = 34366 := by
    rw [hpacer]
    decide
  have hexact : h.AdvancesExactly 15000 :=
    Host.assemble_advancesExactly (Clock.inStrides_advancesExactly (by decide))
  obtain ⟨times, now, w', hw, -, -, hlast, reading, after, w'', taking, hfinished, hpts, hread,
    hread'⟩ := blocking_is_waiting_then_reading h 15000 (by decide) (by decide) hexact.advances
      session (of_decide_eq_false hopen) hblocking (by rw [hdue]; decide) w₀
      (by rw [harrival]; decide)
  obtain ⟨-, hnow⟩ := hlast hexact
  obtain ⟨late, hlate⟩ := hw.exists_late
  have hblocked := hread 3 [] (by rw [hdue, harrival]; decide)
  rw [hblocked] at htaken
  cases reading with
  | frame frame =>
    refine ⟨session, w₀, frame, after, _, late, _, hstart, hblocked, ?_, hread' 0 _ [] hlate⟩
    rw [hpts frame rfl, hnow, hdue, harrival]
    rfl
  | failed | overflow | unfinished => cases htaken

end Session

end ScreenCapture

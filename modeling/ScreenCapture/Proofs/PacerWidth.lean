import ScreenCapture.Proofs.CatchUp
import ScreenCapture.Proofs.Width

namespace ScreenCapture

theorem natAbs_le_natAbs_mul (a : Int) {b : Int} (hb : 0 < b) : a.natAbs ≤ (a * b).natAbs := by
  rw [Int.natAbs_mul]
  exact Nat.le_mul_of_pos_right _ (Int.natAbs_pos.mpr hb.ne')

theorem natAbs_tdiv_mul_le (a b : Int) : (a.tdiv b * b).natAbs ≤ a.natAbs := by
  rw [Int.natAbs_mul, Int.natAbs_tdiv]
  exact Nat.div_mul_le_self _ _

theorem natAbs_toInt_le (now : Int64) : now.toInt.natAbs ≤ 2 ^ 63 := by
  have hlow := now.le_toInt
  have hhigh := now.toInt_lt
  omega

theorem FrameRate.natAbs_mul_num_le (rate : FrameRate) (now : Int64) :
    (now.toInt * rate.num).natAbs ≤ 2 ^ 95 := by
  rw [Int.natAbs_mul, Int.natAbs_natCast]
  exact (Nat.mul_le_mul (natAbs_toInt_le now) rate.num_lt.le).trans (by decide)

theorem FrameRate.exists_new {num den : UInt32} (hn : 0 < num) (hd : 0 < den) :
    ∃ rate, new num den = .ok rate := by
  have hnum := num.toNat_lt
  have hden := den.toNat_lt
  have hshort : (0 < num.toNat ∧ 0 < den.toNat) ∧
      num.toNat / num.toNat.gcd den.toNat < 0x100000000 ∧
      den.toNat / num.toNat.gcd den.toNat < 0x100000000 :=
    ⟨⟨hn, hd⟩, (Nat.div_le_self _ _).trans_lt hnum, (Nat.div_le_self _ _).trans_lt hden⟩
  rw [new, ofFraction?, dif_pos hshort]
  exact ⟨_, rfl⟩

open Width

namespace Pacer

section

variable (bits : Nat)

def start? (rate : FrameRate) (now : Int) : Option Pacer := do
  let scaled ← mul? bits now rate.num
  return ⟨rate, ← div? bits scaled rate.den⟩

variable (pacer : Pacer)

def timeOf? (deadline : Int) : Option Int := do
  let scaled ← mul? bits deadline pacer.rate.den
  div? bits scaled pacer.rate.num

/-- What only a pacer that lags has use for is worked out for every pacer. -/
def schedule? (now : Int) : Option Schedule := do
  let next ← add? bits pacer.deadline frameUnits
  let time ← timeOf? bits pacer next
  let wait ← sub? bits time now
  let scaledWait ← mul? bits wait pacer.rate.num
  let scaledInterval ← mul? bits (-frameUnits) pacer.rate.den
  let afterNext ← add? bits next frameUnits
  return {
    delay := Micros.saturate wait
    deadline := if wait ≤ 0 ∧ scaledWait < scaledInterval then afterNext else next }

def asks (times : List Int) : Pacer := times.foldl (fun pacer now ↦ pacer.ask now) pacer

/-- The deadline is not later, or earlier, than times can be told. -/
def Moderate : Prop := (pacer.deadline * pacer.rate.den).natAbs ≤ 2 ^ 95

end

variable {bits : Nat} {pacer : Pacer}

theorem start_moderate (rate : FrameRate) (started : Int64) :
    (start rate started.toInt).Moderate :=
  (natAbs_tdiv_mul_le _ _).trans (rate.natAbs_mul_num_le started)

theorem ask_moderate (hm : pacer.Moderate) (now : Int64) : (pacer.ask now.toInt).Moderate := by
  unfold ask
  split
  · next hdue =>
    have hden := pacer.rate.den_cast_pos
    have hlater : pacer.deadline ≤ (pacer.schedule now.toInt).deadline := by
      have hunits := frameUnits_pos
      rcases pacer.schedule_deadline now.toInt with ⟨-, he⟩ | ⟨-, he⟩ <;> omega
    have hbehind := Int.mul_le_mul_of_nonneg_right hlater hden.le
    have hround := pacer.mul_den_lt (pacer.schedule now.toInt).deadline
    have hpassed : pacer.timeOf (pacer.schedule now.toInt).deadline + 1 ≤ 2 ^ 63 :=
      (pacer.timeOf_schedule_le hdue).trans_lt now.toInt_lt
    have hlimit := Int.mul_le_mul_of_nonneg_right hpassed pacer.rate.num_cast_pos.le
    have hnum := pacer.rate.num_lt
    simp only [Moderate, commit] at hm ⊢
    omega
  · exact hm

theorem asks_moderate (hm : pacer.Moderate) (times : List Int64) :
    (pacer.asks (times.map Int64.toInt)).Moderate := by
  induction times generalizing pacer with
  | nil => exact hm
  | cons now times ih => exact ih (ask_moderate hm now)

theorem start?_eq_some (hb : 100 ≤ bits) (rate : FrameRate) (started : Int64) :
    start? bits rate started.toInt = some (start rate started.toInt) := by
  have hscaled := (rate.natAbs_mul_num_le started).trans_lt (by decide : 2 ^ 95 < 2 ^ 100)
  simp only [start?, mul?, hold?_eq_some hb hscaled, div?_eq_some hb rate.den_cast_pos hscaled,
    bind, Option.bind, pure, start]

theorem timeOf?_eq_some (hb : 100 ≤ bits) {deadline : Int}
    (hd : (deadline * pacer.rate.den).natAbs < 2 ^ 100) :
    pacer.timeOf? bits deadline = some (pacer.timeOf deadline) := by
  simp only [timeOf?, mul?, hold?_eq_some hb hd, bind, Option.bind, timeOf,
    div?_eq_some hb pacer.rate.num_cast_pos hd]

theorem natAbs_next_mul_den_lt (hm : pacer.Moderate) :
    ((pacer.deadline + frameUnits) * pacer.rate.den).natAbs < 2 ^ 96 := by
  have hden := pacer.rate.den_lt
  simp only [Moderate] at hm
  rw [Int.add_mul, frameUnits]
  omega

theorem natAbs_wait_mul_num_lt (hm : pacer.Moderate) (now : Int64) :
    (pacer.wait now.toInt * pacer.rate.num).natAbs < 2 ^ 97 := by
  have hnext := natAbs_next_mul_den_lt hm
  have htime : (pacer.timeOf (pacer.deadline + frameUnits) * pacer.rate.num).natAbs ≤ _ :=
    natAbs_tdiv_mul_le _ _
  have hnow := pacer.rate.natAbs_mul_num_le now
  rw [wait, Int.sub_mul]
  omega

theorem schedule?_eq_some (hb : 100 ≤ bits) (hm : pacer.Moderate) (now : Int64) :
    pacer.schedule? bits now.toInt = some (pacer.schedule now.toInt) := by
  have hscaledNext := natAbs_next_mul_den_lt hm
  have hscaledWait := natAbs_wait_mul_num_lt hm now
  -- a product is at least as large as its factors
  have hnext : (pacer.deadline + frameUnits).natAbs < 2 ^ 96 :=
    (natAbs_le_natAbs_mul _ pacer.rate.den_cast_pos).trans_lt hscaledNext
  have hwait : (pacer.wait now.toInt).natAbs < 2 ^ 97 :=
    (natAbs_le_natAbs_mul _ pacer.rate.num_cast_pos).trans_lt hscaledWait
  have hadd : add? bits pacer.deadline frameUnits = some (pacer.deadline + frameUnits) :=
    hold?_eq_some hb (by omega)
  have htime := timeOf?_eq_some hb (hscaledNext.trans (by decide))
  have hsub : sub? bits (pacer.timeOf (pacer.deadline + frameUnits)) now.toInt =
      some (pacer.wait now.toInt) := hold?_eq_some hb (hwait.trans (by decide))
  have hmul : mul? bits (pacer.wait now.toInt) pacer.rate.num =
      some (pacer.wait now.toInt * pacer.rate.num) :=
    hold?_eq_some hb (hscaledWait.trans (by decide))
  have hmul' : mul? bits (-frameUnits) pacer.rate.den = some (-frameUnits * pacer.rate.den) := by
    have hden := pacer.rate.den_lt
    exact hold?_eq_some hb (by rw [frameUnits]; omega)
  have hadd' : add? bits (pacer.deadline + frameUnits) frameUnits =
      some (pacer.deadline + frameUnits + frameUnits) :=
    hold?_eq_some hb (by rw [frameUnits] at hnext ⊢; omega)
  simp only [schedule?, hadd, htime, hsub, hmul, hmul', hadd', bind, Option.bind, pure, schedule,
    Lags, Int.neg_mul, Option.some.injEq, Schedule.mk.injEq, true_and]
  split <;> omega

/-- On every run of the pacer, whatever the clock tells, its arithmetic gets by with a hundred bits:
no number on the way to a first deadline, to the time of a deadline or to the next schedule is
larger, and nothing is divided by zero. What is waited is the exact difference, cut off where times
can no longer be told, and so it has the right sign. -/
theorem pacing_never_overflows {bits : Nat} (hb : 100 ≤ bits) :
    (∀ num den : UInt32, 0 < num → 0 < den → ∃ rate, FrameRate.new num den = .ok rate) ∧
    ∀ (rate : FrameRate) (started : Int64),
      start? bits rate started.toInt = some (start rate started.toInt) ∧
      ∀ times : List Int64,
        let pacer := (start rate started.toInt).asks (times.map Int64.toInt)
        pacer.timeOf? bits pacer.deadline = some (pacer.timeOf pacer.deadline) ∧
        ∀ now : Int64,
          let schedule := pacer.schedule now.toInt
          let wait := pacer.timeOf (pacer.deadline + frameUnits) - now.toInt
          pacer.schedule? bits now.toInt = some schedule ∧
          schedule.delay = max Micros.least (min Micros.greatest wait) ∧
          (schedule.IsDue ↔ wait ≤ 0) := by
  refine ⟨fun num den ↦ FrameRate.exists_new, fun rate started ↦
    ⟨start?_eq_some hb rate started, fun times ↦ ?_⟩⟩
  intro pacer
  have hm : pacer.Moderate := asks_moderate (start_moderate rate started) times
  refine ⟨timeOf?_eq_some hb (Nat.lt_of_le_of_lt hm (by decide)), fun now ↦
    ⟨schedule?_eq_some hb hm now, rfl, Micros.saturate_nonpos_iff _⟩⟩

theorem pacing_never_overflows_fastest :
    let rate : FrameRate := ⟨0xffffffff, 1, by decide, by decide, by decide, by decide, by decide⟩
    let pacer := (start rate Int64.maxValue.toInt).asks ([.maxValue, .minValue].map Int64.toInt)
    (∃ rate, FrameRate.new 0xffffffff 1 = .ok rate) ∧
      start? 127 rate Int64.maxValue.toInt = some (start rate Int64.maxValue.toInt) ∧
      pacer.schedule? 127 Int64.minValue.toInt =
        some ⟨Micros.greatest, 0x7fffffffffffffff * 0xffffffff + 2 * frameUnits⟩ := by
  intro rate pacer
  obtain ⟨hrates, hruns⟩ := pacing_never_overflows (show 100 ≤ 127 by decide)
  obtain ⟨hstart, hasks⟩ := hruns rate .maxValue
  obtain ⟨hschedule, -⟩ := (hasks [.maxValue, .minValue]).2 .minValue
  have heval : pacer.schedule Int64.minValue.toInt =
      ⟨Micros.greatest, 0x7fffffffffffffff * 0xffffffff + 2 * frameUnits⟩ := by decide +kernel
  exact ⟨hrates _ _ (by decide) (by decide), hstart, heval ▸ hschedule⟩

end Pacer

end ScreenCapture

import ScreenCapture.Pacer
import Mathlib.Tactic.Linarith
import Mathlib.Tactic.Ring

namespace ScreenCapture

theorem frameUnits_pos : 0 < frameUnits := by decide

theorem Micros.saturate_nonpos_iff (v : Int) : saturate v ≤ 0 ↔ v ≤ 0 := by
  simp only [saturate, clamp, least, greatest]
  omega

theorem Micros.saturate_of_pos {v : Int} (hv : 0 < v) : saturate v = min v greatest := by
  simp only [saturate, clamp, least, greatest]
  omega

namespace FrameRate

variable (rate : FrameRate)

theorem num_cast_pos : 0 < (rate.num : Int) := Int.natCast_pos.mpr rate.num_pos

theorem den_cast_pos : 0 < (rate.den : Int) := Int.natCast_pos.mpr rate.den_pos

end FrameRate

namespace Pacer

variable (pacer : Pacer)

theorem timeOf_mono {d d' : Int} (h : d ≤ d') : pacer.timeOf d ≤ pacer.timeOf d' :=
  Int.tdiv_le_tdiv pacer.rate.num_cast_pos
    (Int.mul_le_mul_of_nonneg_right h pacer.rate.den_cast_pos.le)

def due : Int := pacer.timeOf (pacer.deadline + frameUnits)

theorem isDue_iff (now : Int) : (pacer.schedule now).IsDue ↔ pacer.due ≤ now := by
  simp only [Schedule.IsDue, schedule, Micros.saturate_nonpos_iff, wait, due]
  omega

theorem schedule_delay {now : Int} (hn : now < pacer.due) :
    (pacer.schedule now).delay = min (pacer.due - now) Micros.greatest :=
  Micros.saturate_of_pos (Int.sub_pos_of_lt hn)

theorem schedule_deadline (now : Int) :
    (pacer.Lags now ∧ (pacer.schedule now).deadline = pacer.deadline + 2 * frameUnits) ∨
      (¬ pacer.Lags now ∧ (pacer.schedule now).deadline = pacer.deadline + frameUnits) := by
  by_cases hl : pacer.Lags now
  · refine .inl ⟨hl, ?_⟩
    simp only [schedule, if_pos hl]
    omega
  · refine .inr ⟨hl, ?_⟩
    simp only [schedule, if_neg hl]
    omega

/-- A pacer that lags is behind by more than an interval: the deadline after the next one has
passed too. The division is toward zero, so the two signs of the deadline round differently. -/
theorem timeOf_le_of_lags {now : Int} (hl : pacer.Lags now) :
    pacer.timeOf (pacer.deadline + 2 * frameUnits) ≤ now := by
  obtain ⟨-, hlag⟩ := hl
  have hn := pacer.rate.num_cast_pos
  have hu : 0 < frameUnits * (pacer.rate.den : Int) :=
    Int.mul_pos frameUnits_pos pacer.rate.den_cast_pos
  simp only [wait, timeOf] at hlag ⊢
  generalize (pacer.rate.num : Int) = num at *
  generalize (pacer.rate.den : Int) = den at *
  have hnext : (pacer.deadline + 2 * frameUnits) * den =
      (pacer.deadline + frameUnits) * den + frameUnits * den := by ring
  rw [hnext]
  generalize (pacer.deadline + frameUnits) * den = next at *
  generalize frameUnits * den = interval at *
  have hsplit := Int.mul_tdiv_add_tmod next num
  have hgap : next + interval < now * num + next.tmod num := by linarith
  rcases Int.le_total 0 next with hpos | hneg
  · have hrest := Int.tmod_lt_of_pos next hn
    rw [Int.tdiv_eq_ediv_of_nonneg (by omega)]
    exact Int.le_of_lt_add_one (Int.ediv_lt_of_lt_mul hn (by linarith))
  · have hrest : next.tmod num ≤ 0 := by
      have h := Int.tmod_nonneg num (Int.neg_nonneg_of_nonpos hneg)
      rw [Int.neg_tmod] at h
      omega
    calc (next + interval).tdiv num ≤ (now * num).tdiv num :=
          Int.tdiv_le_tdiv hn (by omega)
      _ = now := Int.mul_tdiv_cancel now hn.ne'

theorem timeOf_schedule_le {now : Int} (hd : (pacer.schedule now).IsDue) :
    pacer.timeOf (pacer.schedule now).deadline ≤ now := by
  rcases pacer.schedule_deadline now with ⟨hl, he⟩ | ⟨-, he⟩
  · exact he ▸ pacer.timeOf_le_of_lags hl
  · rw [he]
    exact (pacer.isDue_iff now).mp hd

theorem schedule_deadline_of_timely {now : Int}
    (hn : (now - pacer.due) * pacer.rate.num ≤ frameUnits * pacer.rate.den) :
    (pacer.schedule now).deadline = pacer.deadline + frameUnits := by
  rcases pacer.schedule_deadline now with ⟨⟨-, hlag⟩, -⟩ | ⟨-, he⟩
  · have hw : pacer.wait now * pacer.rate.num = -((now - pacer.due) * pacer.rate.num) := by
      rw [wait, due]
      ring
    omega
  · exact he

theorem timeOf_mul_num {d : Int} (hd : 0 ≤ d) :
    pacer.timeOf d * pacer.rate.num ≤ d * pacer.rate.den ∧
      d * pacer.rate.den < pacer.timeOf d * pacer.rate.num + pacer.rate.num := by
  have hn := pacer.rate.num_cast_pos
  have hsplit := Int.tdiv_mul_add_tmod (d * pacer.rate.den) pacer.rate.num
  have hlow := Int.tmod_nonneg (pacer.rate.num : Int)
    (Int.mul_nonneg hd pacer.rate.den_cast_pos.le)
  have hhigh := Int.tmod_lt_of_pos (d * pacer.rate.den) hn
  rw [timeOf]
  omega

theorem start_deadline_mul_den (rate : FrameRate) {now : Int} (hn : 0 ≤ now) :
    0 ≤ (start rate now).deadline ∧ (start rate now).deadline * rate.den ≤ now * rate.num ∧
      now * rate.num < (start rate now).deadline * rate.den + rate.den := by
  have hpos := Int.mul_nonneg hn rate.num_cast_pos.le
  have hsplit := Int.tdiv_mul_add_tmod (now * rate.num) rate.den
  have hlow := Int.tmod_nonneg (rate.den : Int) hpos
  have hhigh := Int.tmod_lt_of_pos (now * rate.num) rate.den_cast_pos
  refine ⟨Int.tdiv_nonneg hpos rate.den_cast_pos.le, ?_, ?_⟩
  · simp only [start]
    omega
  · simp only [start]
    omega

/-- However many intervals have passed, the time of a deadline is off the ideal one by less than
the roundings of the first deadline and of this one. -/
theorem timeOf_start_add (rate : FrameRate) {now : Int} (hn : 0 ≤ now) (k : Nat) :
    let due := (start rate now).timeOf ((start rate now).deadline + k * frameUnits)
    (due - now) * rate.num - k * frameUnits * rate.den ≤ 0 ∧
      -(rate.num + rate.den : Int) < (due - now) * rate.num - k * frameUnits * rate.den := by
  intro due
  obtain ⟨hpos, hlow, hhigh⟩ := start_deadline_mul_den rate hn
  have hk : 0 ≤ k * frameUnits := Int.mul_nonneg (Int.natCast_nonneg k) frameUnits_pos.le
  have hdue := (start rate now).timeOf_mul_num (Int.add_nonneg hpos hk)
  have hbelow : due * rate.num ≤ ((start rate now).deadline + k * frameUnits) * rate.den := hdue.1
  have habove : ((start rate now).deadline + k * frameUnits) * rate.den <
      due * rate.num + rate.num := hdue.2
  rw [Int.add_mul] at hbelow habove
  rw [Int.sub_mul]
  omega

def replay (times : List Int) : Pacer :=
  times.foldl (fun pacer now ↦ pacer.commit (pacer.schedule now)) pacer

/-- Each frame is taken when it is due by the pacer's schedule. -/
inductive Serves : Pacer → List Int → Pacer → Prop
  | nil (pacer : Pacer) : Serves pacer [] pacer
  | cons {pacer last : Pacer} {now : Int} {times : List Int} :
    (pacer.schedule now).IsDue → Serves (pacer.commit (pacer.schedule now)) times last →
      Serves pacer (now :: times) last

namespace Serves

variable {pacer last : Pacer} {times : List Int}

theorem eq_replay (hs : Serves pacer times last) : last = pacer.replay times := by
  induction hs with
  | nil => rfl
  | cons _ _ ih => exact ih

theorem rate_eq (hs : Serves pacer times last) : last.rate = pacer.rate := by
  induction hs with
  | nil => rfl
  | cons _ _ ih => exact ih

theorem trans {middle : Pacer} {times' : List Int} (hs : Serves pacer times middle)
    (hs' : Serves middle times' last) : Serves pacer (times ++ times') last := by
  induction hs with
  | nil => exact hs'
  | cons hd _ ih => exact .cons hd (ih hs')

theorem deadline_eq (hs : Serves pacer times last) :
    ∃ m : Nat, times.length ≤ m ∧ m ≤ 2 * times.length ∧
      last.deadline = pacer.deadline + m * frameUnits := by
  induction hs with
  | nil pacer => exact ⟨0, by simp, by simp, by simp⟩
  | @cons pacer last now times _ _ ih =>
    obtain ⟨m, hlow, hhigh, he⟩ := ih
    simp only [commit] at he
    simp only [List.length_cons]
    rcases pacer.schedule_deadline now with ⟨-, hd⟩ | ⟨-, hd⟩
    · refine ⟨m + 2, by omega, by omega, ?_⟩
      rw [he, hd]
      push_cast
      ring
    · refine ⟨m + 1, by omega, by omega, ?_⟩
      rw [he, hd]
      push_cast
      ring

theorem deadline_ge (hs : Serves pacer times last) :
    pacer.deadline + times.length * frameUnits ≤ last.deadline := by
  obtain ⟨m, hm, -, he⟩ := hs.deadline_eq
  have h := Int.mul_le_mul_of_nonneg_right (Int.ofNat_le.mpr hm) frameUnits_pos.le
  omega

theorem timeOf_last_le (hs : Serves pacer times last) {now : Int}
    (hn : times.getLast? = some now) : pacer.timeOf last.deadline ≤ now := by
  induction hs with
  | nil => cases hn
  | @cons pacer _ first times hd hrest ih =>
    cases hrest with
    | nil =>
      obtain rfl : first = now := by simpa using hn
      exact pacer.timeOf_schedule_le hd
    | cons hd' hrest' =>
      rw [List.getLast?_cons_cons] at hn
      exact ih hn

/-- A frame that is due after `times` comes no earlier than the deadline it moves to, and that is
at least one interval more than `times` are many. -/
theorem timeOf_le (hs : Serves pacer times last) {now : Int} (hd : (last.schedule now).IsDue) :
    pacer.timeOf (last.schedule now).deadline ≤ now ∧
      pacer.timeOf (pacer.deadline + (times.length + 1) * frameUnits) ≤ now := by
  have hlast : pacer.timeOf (last.schedule now).deadline ≤ now := by
    have h := last.timeOf_schedule_le hd
    rwa [timeOf, hs.rate_eq] at h
  refine ⟨hlast, (pacer.timeOf_mono ?_).trans hlast⟩
  have hge : _ ≤ (last.schedule now).deadline := (hs.trans (.cons hd (.nil _))).deadline_ge
  simpa using hge

end Serves

end Pacer

end ScreenCapture

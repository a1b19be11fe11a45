import ScreenCapture.Proofs.Pacing
import Mathlib.Data.Set.Card
import Mathlib.Logic.Function.Iterate
import Mathlib.Order.Interval.Finset.Nat

namespace ScreenCapture.Pacer

def ask (now : Int) (pacer : Pacer) : Pacer :=
  if (pacer.schedule now).IsDue then pacer.commit (pacer.schedule now) else pacer

variable (pacer : Pacer) (now : Int)

/-- The intervals after the last frame whose deadlines have passed, counted from one. -/
def missed : Set Nat := {j | 1 ≤ j ∧ pacer.timeOf (pacer.deadline + j * frameUnits) ≤ now}

theorem timeOf_add_mono {m n : Nat} (h : m ≤ n) :
    pacer.timeOf (pacer.deadline + m * frameUnits) ≤
      pacer.timeOf (pacer.deadline + n * frameUnits) :=
  pacer.timeOf_mono (Int.add_le_add_left
    (Int.mul_le_mul_of_nonneg_right (Int.ofNat_le.mpr h) frameUnits_pos.le) _)

theorem mul_den_lt (deadline : Int) :
    deadline * pacer.rate.den < (pacer.timeOf deadline + 1) * pacer.rate.num := by
  have hsplit := Int.tdiv_mul_add_tmod (deadline * pacer.rate.den) pacer.rate.num
  have hrest := Int.tmod_lt_of_pos (deadline * pacer.rate.den) pacer.rate.num_cast_pos
  rw [timeOf, Int.add_mul, Int.one_mul]
  omega

theorem exists_lt_timeOf : ∃ n : Nat, now < pacer.timeOf (pacer.deadline + n * frameUnits) := by
  let n := pacer.deadline.natAbs + ((now + 1) * pacer.rate.num).toNat
  refine ⟨n, ?_⟩
  have hunits : (n : Int) ≤ n * frameUnits := by
    simp only [frameUnits]
    omega
  have hn : (n : Int) = pacer.deadline.natAbs + ((now + 1) * pacer.rate.num).toNat := by
    simp only [n, Nat.cast_add]
  have hpos : 0 ≤ pacer.deadline + n * frameUnits := by omega
  have hfar : (now + 1) * pacer.rate.num ≤ pacer.deadline + n * frameUnits := by omega
  generalize pacer.deadline + n * frameUnits = deadline at hpos hfar ⊢
  have hden : deadline ≤ deadline * pacer.rate.den :=
    le_mul_of_one_le_right hpos pacer.rate.den_cast_pos
  have hlate : (now + 1) * pacer.rate.num < (pacer.timeOf deadline + 1) * pacer.rate.num :=
    (hfar.trans hden).trans_lt (pacer.mul_den_lt deadline)
  exact Int.lt_of_add_lt_add_right (Int.lt_of_mul_lt_mul_right hlate pacer.rate.num_cast_pos.le)

variable {pacer now}

theorem missed_eq {m : Nat}
    (hpast : 1 ≤ m → pacer.timeOf (pacer.deadline + m * frameUnits) ≤ now)
    (hnext : now < pacer.timeOf (pacer.deadline + (m + 1 : Nat) * frameUnits)) :
    pacer.missed now = Set.Icc 1 m := by
  ext j
  refine and_congr_right fun hj ↦ ⟨fun hpassed ↦ ?_, fun hm ↦ ?_⟩
  · by_contra hbeyond
    exact absurd hpassed
      (Int.not_le.mpr (hnext.trans_le (pacer.timeOf_add_mono (Nat.lt_of_not_le hbeyond))))
  · exact (pacer.timeOf_add_mono hm).trans (hpast (hj.trans hm))

theorem ncard_missed {m : Nat} (hm : pacer.missed now = Set.Icc 1 m) :
    (pacer.missed now).ncard = m := by
  rw [hm, ← Finset.coe_Icc, Set.ncard_coe_finset, Nat.card_Icc, Nat.add_sub_cancel]

/-- Two intervals after the next one have passed as well, so even with the time rounded down the
pacer is late by more than one. -/
theorem lags_of_timeOf_le (hd : 0 ≤ pacer.deadline)
    (hinterval : (pacer.rate.num : Int) ≤ frameUnits * pacer.rate.den)
    (hlate : pacer.timeOf (pacer.deadline + 3 * frameUnits) ≤ now) : pacer.Lags now := by
  have hn := pacer.rate.num_cast_pos
  have hunits := frameUnits_pos
  have hnext : 0 ≤ pacer.deadline + frameUnits := by omega
  have hthird : 0 ≤ pacer.deadline + 3 * frameUnits := by omega
  have hbelow := (pacer.timeOf_mul_num hnext).1
  have habove := (pacer.timeOf_mul_num hthird).2
  have hpassed := Int.mul_le_mul_of_nonneg_right hlate hn.le
  have hsplit : (pacer.deadline + 3 * frameUnits) * pacer.rate.den =
      (pacer.deadline + frameUnits) * pacer.rate.den + 2 * (frameUnits * pacer.rate.den) := by ring
  have hwait : pacer.wait now * pacer.rate.num =
      pacer.timeOf (pacer.deadline + frameUnits) * pacer.rate.num - now * pacer.rate.num := by
    rw [wait, Int.sub_mul]
  have hlags : pacer.wait now * pacer.rate.num < -(frameUnits * pacer.rate.den) := by omega
  refine ⟨?_, hlags⟩
  by_contra hearly
  have hpos := Int.mul_pos (Int.not_le.mp hearly) hn
  omega

namespace Serves

variable {last : Pacer} {n : Nat}

theorem timeOf_replicate_le (hs : Serves pacer (List.replicate (n + 1) now) last) :
    pacer.timeOf last.deadline ≤ now :=
  hs.timeOf_last_le (by rw [List.replicate_succ', List.getLast?_concat])

/-- All frames that are taken at one time, but for the last two, stand for two intervals. -/
theorem deadline_ge_of_backlog (hs : Serves pacer (List.replicate (n + 2) now) last)
    (hd : 0 ≤ pacer.deadline) (hinterval : (pacer.rate.num : Int) ≤ frameUnits * pacer.rate.den) :
    pacer.deadline + (2 * n + 2) * frameUnits ≤ last.deadline := by
  induction n generalizing pacer with
  | zero => simpa using hs.deadline_ge
  | succ n ih =>
    -- the frames that are left show that three intervals have passed
    have hge := hs.deadline_ge
    have hpassed := hs.timeOf_replicate_le
    rw [List.length_replicate] at hge
    have hthree : pacer.deadline + 3 * frameUnits ≤ last.deadline := by
      simp only [frameUnits] at hge ⊢
      omega
    have hlags := lags_of_timeOf_le hd hinterval ((pacer.timeOf_mono hthree).trans hpassed)
    rw [List.replicate_succ] at hs
    cases hs with
    | cons _ hrest =>
      obtain ⟨-, hmove⟩ | ⟨hnot, -⟩ := pacer.schedule_deadline now
      · have hnext := ih hrest (by simp only [commit, hmove, frameUnits]; omega) hinterval
        simp only [commit, hmove] at hnext
        simp only [frameUnits] at hnext ⊢
        push_cast
        omega
      · exact absurd hlags hnot

end Serves

theorem serves_iterate {n : Nat} (hd : ∀ m < n, (((ask now)^[m] pacer).schedule now).IsDue) :
    Serves pacer (List.replicate n now) ((ask now)^[n] pacer) := by
  induction n generalizing pacer with
  | zero => exact .nil pacer
  | succ n ih =>
    have hfirst : (pacer.schedule now).IsDue := hd 0 (Nat.succ_pos n)
    have hask : pacer.commit (pacer.schedule now) = pacer.ask now := (if_pos hfirst).symm
    refine .cons hfirst ?_
    rw [hask]
    exact ih fun m hm ↦ hd (m + 1) (Nat.succ_lt_succ hm)

theorem exists_not_isDue (pacer : Pacer) (now : Int) :
    ∃ n, ¬ (((ask now)^[n] pacer).schedule now).IsDue := by
  obtain ⟨n, hn⟩ := pacer.exists_lt_timeOf now
  by_contra hall
  have hs := serves_iterate (n := n + 1) fun m _ ↦ not_exists_not.mp hall m
  have hge := hs.deadline_ge
  have hunits := frameUnits_pos
  rw [List.length_replicate, Nat.cast_succ, Int.add_mul, Int.one_mul] at hge
  have hpassed := (pacer.timeOf_mono (show pacer.deadline + n * frameUnits ≤ _ by omega)).trans
    hs.timeOf_replicate_le
  omega

theorem isDue_iterate_iff {frames : Nat}
    (hdue : ∀ m < frames, (((ask now)^[m] pacer).schedule now).IsDue)
    (hlast : ¬ (((ask now)^[frames] pacer).schedule now).IsDue) (n : Nat) :
    (((ask now)^[n] pacer).schedule now).IsDue ↔ n < frames := by
  refine ⟨fun hn ↦ ?_, hdue n⟩
  by_contra hge
  obtain ⟨k, rfl⟩ := Nat.exists_eq_add_of_le' (Nat.le_of_not_lt hge)
  have hfixed : ask now ((ask now)^[frames] pacer) = (ask now)^[frames] pacer := if_neg hlast
  rw [Function.iterate_add_apply, Function.iterate_fixed hfixed] at hn
  exact hlast hn

/-- Asking at one time comes to an end, with the deadline after the last interval that was missed.
Of the frames taken, none stands for more than two intervals; if an interval is at least a
microsecond long, all but the last two do stand for two, so the backlog is halved. -/
theorem backlog_is_worked_off (pacer : Pacer) (now : Int) :
    (pacer.missed now).Finite ∧
    ∃ frames : Nat, (∀ n, (((ask now)^[n] pacer).schedule now).IsDue ↔ n < frames) ∧
      let backlog := (pacer.missed now).ncard
      ((ask now)^[frames] pacer).deadline = pacer.deadline + backlog * frameUnits ∧
      (backlog + 1) / 2 ≤ frames ∧
      (0 ≤ pacer.deadline → pacer.rate.num ≤ 1000000 * pacer.rate.den →
        frames ≤ backlog / 2 + 1) := by
  obtain ⟨frames, hlast, hfirst⟩ : ∃ frames,
      ¬ (((ask now)^[frames] pacer).schedule now).IsDue ∧
        ∀ m < frames, (((ask now)^[m] pacer).schedule now).IsDue :=
    ⟨Nat.find (exists_not_isDue pacer now), Nat.find_spec (exists_not_isDue pacer now),
      fun m hm ↦ Decidable.not_not.mp (Nat.find_min (exists_not_isDue pacer now) hm)⟩
  have hs := serves_iterate hfirst
  have hiff := isDue_iterate_iff hfirst hlast
  obtain ⟨m, hlow, hhigh, hdeadline⟩ := hs.deadline_eq
  rw [List.length_replicate] at hlow hhigh
  have hmissed : pacer.missed now = Set.Icc 1 m := by
    refine missed_eq (fun hm ↦ ?_) ?_
    · obtain ⟨n, rfl⟩ := Nat.exists_eq_succ_of_ne_zero (n := frames) (by omega)
      exact hdeadline ▸ hs.timeOf_replicate_le
    · have hnext := (isDue_iff _ now).not.mp hlast
      rw [due, hdeadline, timeOf, hs.rate_eq] at hnext
      rw [Nat.cast_succ, Int.add_mul, Int.one_mul, ← Int.add_assoc]
      exact Int.not_le.mp hnext
  refine ⟨hmissed ▸ Set.finite_Icc 1 m, frames, hiff, ?_⟩
  intro backlog
  have hbacklog : backlog = m := ncard_missed hmissed
  rw [hbacklog]
  refine ⟨hdeadline, by omega, fun hd hinterval ↦ ?_⟩
  by_cases hfew : frames < 2
  · omega
  · obtain ⟨n, rfl⟩ := Nat.exists_eq_add_of_le' (Nat.le_of_not_lt hfew)
    have hge := hs.deadline_ge_of_backlog hd (Int.ofNat_le.mpr hinterval)
    rw [hdeadline] at hge
    simp only [frameUnits] at hge
    omega

theorem backlog_is_worked_off_pal :
    let pacer : Pacer := ⟨.pal, 0⟩
    (pacer.missed 1040000).ncard = 26 ∧
      (∀ n, (((ask 1040000)^[n] pacer).schedule 1040000).IsDue ↔ n < 14) ∧
      ((ask 1040000)^[14] pacer).deadline = 26 * frameUnits := by
  intro pacer
  have hcount : (pacer.missed 1040000).ncard = 26 :=
    ncard_missed (missed_eq (fun _ ↦ by decide) (by decide))
  obtain ⟨-, frames, hdue, hdeadline, -, hbound⟩ := backlog_is_worked_off pacer 1040000
  rw [hcount] at hdeadline hbound
  have hlast : 13 < frames := (hdue 13).mp (by decide +kernel)
  obtain rfl : frames = 14 := Nat.le_antisymm (hbound (by decide) (by decide)) hlast
  exact ⟨hcount, hdue, hdeadline.trans (Int.zero_add _)⟩

end ScreenCapture.Pacer

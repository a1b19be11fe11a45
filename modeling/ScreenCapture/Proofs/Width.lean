import Mathlib.Algebra.Order.Floor.Div
import Mathlib.Algebra.Order.Ring.Int

namespace ScreenCapture

namespace Width

variable (bits : Nat)

/-- The number `v`, if it has at most that many bits besides its sign. -/
def hold? (v : Int) : Option Int := if v.natAbs < 2 ^ bits then some v else none

def add? (a b : Int) : Option Int := hold? bits (a + b)

def sub? (a b : Int) : Option Int := hold? bits (a - b)

def mul? (a b : Int) : Option Int := hold? bits (a * b)

def div? (a b : Int) : Option Int := if b = 0 then none else hold? bits (a.tdiv b)

def floorDiv? (a b : Int) : Option Int := if b = 0 then none else hold? bits (a / b)

/-- Rounds up, where nothing is negative: one more than the quotient, if that leaves a rest. -/
def ceilDiv? (a b : Int) : Option Int := do
  let whole ← div? bits a b
  if whole * b < a then add? bits whole 1 else return whole

variable {bits}

theorem hold?_of_lt {v : Int} (hv : v.natAbs < 2 ^ bits) : hold? bits v = some v := if_pos hv

theorem hold?_eq_some (hb : 100 ≤ bits) {v : Int} (hv : v.natAbs < 2 ^ 100) :
    hold? bits v = some v :=
  hold?_of_lt (hv.trans_le (Nat.pow_le_pow_right Nat.two_pos hb))

theorem div?_eq_some (hb : 100 ≤ bits) {a b : Int} (hpos : 0 < b) (ha : a.natAbs < 2 ^ 100) :
    div? bits a b = some (a.tdiv b) := by
  rw [div?, if_neg hpos.ne']
  exact hold?_eq_some hb ((Int.natAbs_tdiv_le_natAbs a b).trans_lt ha)

section

variable {a b : Nat}

theorem hold?_natCast (ha : a < 2 ^ bits) : hold? bits a = some (a : Int) :=
  hold?_of_lt (by rwa [Int.natAbs_natCast])

theorem hold?_natCast_eq_none (ha : 2 ^ bits ≤ a) : hold? bits a = none :=
  if_neg (by rwa [Int.natAbs_natCast, Nat.not_lt])

theorem add?_natCast : add? bits a b = hold? bits (a + b : Nat) := rfl

theorem mul?_natCast : mul? bits a b = hold? bits (a * b : Nat) := rfl

theorem ceilDiv?_natCast (hb : 0 < b) (ha : a < 2 ^ bits) :
    ceilDiv? bits a b = some ((a ⌈/⌉ b : Nat) : Int) := by
  have hquotient : div? bits a b = some ((a / b : Nat) : Int) := by
    rw [div?, if_neg (by omega), ← Int.ofNat_tdiv]
    exact hold?_natCast ((Nat.div_le_self a b).trans_lt ha)
  have hbelow : a < b * (a / b + 1) := Nat.lt_mul_div_succ a hb
  simp only [ceilDiv?, hquotient, Option.bind_eq_bind, Option.bind_some]
  split
  · next hrest =>
    have hrest : b * (a / b) < a := by
      rw [Nat.mul_comm]
      exact_mod_cast hrest
    have hceil : a ⌈/⌉ b = a / b + 1 := Nat.le_antisymm
      ((ceilDiv_le_iff_le_mul hb).mpr hbelow.le)
      (Nat.lt_of_not_le fun hle ↦ hrest.not_ge ((ceilDiv_le_iff_le_mul hb).mp hle))
    have hnext : a / b + 1 ≤ a := (Nat.le_mul_of_pos_left _ hb).trans_lt hrest
    rw [hceil]
    exact hold?_natCast (hnext.trans_lt ha)
  · next hrest =>
    have hrest : a ≤ b * (a / b) := by
      rw [Nat.mul_comm]
      exact_mod_cast Int.not_lt.mp hrest
    have hceil : a ⌈/⌉ b = a / b := Nat.le_antisymm ((ceilDiv_le_iff_le_mul hb).mpr hrest)
      (Nat.div_le_of_le_mul ((ceilDiv_le_iff_le_mul hb).mp le_rfl))
    rw [hceil]
    rfl

end

end Width

end ScreenCapture

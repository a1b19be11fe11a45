namespace ScreenCapture

/-- The number `digits * 10 ^ exponent`. -/
structure Decimal where
  digits : Nat
  exponent : Int
deriving DecidableEq, Repr

namespace Decimal

/-- A positive number `mantissa * 2 ^ (exponent + 2)` in quarters of its last binary place, with
the bounds of the interval that is rounded to it. The bounds belong to it if `closed` holds. -/
structure Interval where
  low : Nat
  mid : Nat
  high : Nat
  exponent : Int
  closed : Bool
deriving DecidableEq, Repr

def leadingBit : Nat := 0x10000000000000

/-- The interval of a finite number with these bits, its sign left aside. Above a power of two the
neighbours are twice as far away as below it. -/
def Interval.ofBits (bits : UInt64) : Interval :=
  let fraction : Nat := bits.toNat % leadingBit
  let biased : Nat := bits.toNat / leadingBit % 2048
  let mantissa := if biased = 0 then fraction else leadingBit + fraction
  let below := if fraction = 0 ∧ 1 < biased then 1 else 2
  { low := 4 * mantissa - below
    mid := 4 * mantissa
    high := 4 * mantissa + 2
    exponent := (max 1 biased : Nat) - 1077
    closed := mantissa % 2 = 0 }

/-- The multiple of `10 ^ e` in the interval that is nearest to its middle; of two that are equally
near, the even one. -/
def Interval.onGrid? (interval : Interval) (e : Int) : Option Nat :=
  let unit := Nat.pow 10 e.toNat * Nat.pow 2 (-interval.exponent).toNat
  let place := Nat.pow 2 interval.exponent.toNat * Nat.pow 10 (-e).toNat
  let inside (k : Nat) : Bool :=
    if interval.closed then interval.low * place ≤ k * unit ∧ k * unit ≤ interval.high * place
    else interval.low * place < k * unit ∧ k * unit < interval.high * place
  let k := interval.mid * place / unit
  match inside k, inside (k + 1) with
  | true, false => some k
  | false, true => some (k + 1)
  | false, false => none
  | true, true =>
    let above := interval.mid * place - k * unit
    let below := (k + 1) * unit - interval.mid * place
    if above < below ∨ above = below ∧ k % 2 = 0 then some k else some (k + 1)

def coarsest? (interval : Interval) : Nat → Int → Option Decimal
  | 0, _ => none
  | steps + 1, e =>
    match interval.onGrid? e with
    | some digits => some ⟨digits, e⟩
    | none => coarsest? interval steps (e - 1)

/-- The shortest decimal that is rounded to the positive number with these bits. Doubles lie below
`10 ^ 309` and are multiples of `10 ^ (-1074)`. -/
def shortest (bits : UInt64) : Decimal :=
  (coarsest? (.ofBits bits) 1384 309).getD ⟨0, 0⟩

def positional (d : Decimal) : String :=
  let digits := toString d.digits
  if 0 ≤ d.exponent then digits ++ String.ofList (List.replicate d.exponent.toNat '0') ++ ".0"
  else
    let places := (-d.exponent).toNat
    let padded := List.replicate (places + 1 - digits.length) '0' ++ digits.toList
    String.ofList (padded.take (padded.length - places)) ++ "." ++
      String.ofList (padded.drop (padded.length - places))

def magnitude (d : Decimal) : Int := d.exponent + ((toString d.digits).length - 1 : Nat)

def scientific (d : Decimal) : String :=
  let digits := (toString d.digits).toList
  let point := if digits.length = 1 then [] else ['.']
  let sign := if d.magnitude < 0 then "-" else "+"
  String.ofList (digits.take 1 ++ point ++ digits.drop 1) ++ "e" ++ sign ++
    toString d.magnitude.natAbs

/-- Numbers with more than five zeros in front or more than sixteen digits before the point take
an exponent. -/
def text (d : Decimal) : String :=
  if -5 ≤ d.magnitude ∧ d.magnitude ≤ 15 then d.positional else d.scientific

def signBit : Nat := 0x8000000000000000

def ofFloat (x : Float) : String :=
  let bits := x.toBits
  let sign := if bits.toNat < signBit then "" else "-"
  let unsigned := UInt64.ofNat (bits.toNat % signBit)
  sign ++ if unsigned = 0 then "0.0" else (shortest unsigned).text

end Decimal

end ScreenCapture

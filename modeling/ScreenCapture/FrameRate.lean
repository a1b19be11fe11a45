import ScreenCapture.Error
import ScreenCapture.Text.Blank
import ScreenCapture.Text.Numeral

namespace ScreenCapture

open Text

/-- Frames per second as a fraction in lowest terms, both terms below `2 ^ 32`. -/
@[ext]
structure FrameRate where
  num : Nat
  den : Nat
  num_pos : 0 < num
  den_pos : 0 < den
  num_lt : num < 0x100000000
  den_lt : den < 0x100000000
  coprime : num.gcd den = 1
deriving Repr

instance : DecidableEq FrameRate := fun _ _ ↦
  decidable_of_decidable_of_iff FrameRate.ext_iff.symm

namespace FrameRate

/-- The fraction `num / den` in lowest terms, when it is positive and its terms are short enough. -/
def ofFraction? (num den : Nat) : Option FrameRate :=
  if h : (0 < num ∧ 0 < den) ∧ num / num.gcd den < 0x100000000 ∧ den / num.gcd den < 0x100000000 then
    some {
      num := num / num.gcd den
      den := den / num.gcd den
      num_pos := Nat.div_pos (Nat.gcd_le_left den h.1.1) (Nat.gcd_pos_of_pos_left den h.1.1)
      den_pos := Nat.div_pos (Nat.gcd_le_right num h.1.2) (Nat.gcd_pos_of_pos_left den h.1.1)
      num_lt := h.2.1
      den_lt := h.2.2
      coprime := by
        rw [Nat.gcd_div (Nat.gcd_dvd_left num den) (Nat.gcd_dvd_right num den)]
        exact Nat.div_self (Nat.gcd_pos_of_pos_left den h.1.1) }
  else none

def new (num den : UInt32) : Result FrameRate :=
  match ofFraction? num.toNat den.toNat with
  | some rate => .ok rate
  | none => .error (.invalidConfig (.rate num.toNat den.toNat))

def ntsc : FrameRate := ⟨30000, 1001, by decide, by decide, by decide, by decide, by decide⟩

def pal : FrameRate := ⟨25, 1, by decide, by decide, by decide, by decide, by decide⟩

def film : FrameRate := ⟨24, 1, by decide, by decide, by decide, by decide, by decide⟩

def ntscFilm : FrameRate := ⟨24000, 1001, by decide, by decide, by decide, by decide, by decide⟩

instance : Inhabited FrameRate := ⟨ntsc⟩

def toFloat (rate : FrameRate) : Float := Float.ofNat rate.num / Float.ofNat rate.den

/-- Whole microseconds from one frame to the next. -/
def interval (rate : FrameRate) : Nat := 1000000 * rate.den / rate.num

def names : List (String × FrameRate) :=
  [("ntsc", ntsc), ("qntsc", ntsc), ("sntsc", ntsc), ("pal", pal), ("qpal", pal), ("spal", pal),
    ("film", film), ("ntsc-film", ntscFilm)]

def named? (s : List Char) : Option FrameRate := names.lookup (String.ofList (lower s))

def word? (s : List Char) : Option Nat := (Numeral.readNat 0xffffffff s).toOption

/-- Two numerals on either side of a slash or colon, blanks around them allowed. -/
def ratio? (num den : List Char) : Option FrameRate := do
  ofFraction? (← word? (trim num)) (← word? (trim den))

/-- A whole part, which may be left out, and one to six digits after the point. -/
def decimal? (whole fraction : List Char) : Option FrameRate := do
  guard (1 ≤ fraction.length ∧ fraction.length ≤ 6 ∧ fraction.all Char.isDigit)
  let w ← if whole.isEmpty then some 0 else (Numeral.readNat 0xffffffffffffffff whole).toOption
  let f ← (Numeral.readNat 0xffffffffffffffff fraction).toOption
  let den := Nat.pow 10 fraction.length
  let num := w * den + f
  guard (num ≤ 0xffffffffffffffff)
  ofFraction? num den

def whole? (s : List Char) : Option FrameRate := do ofFraction? (← word? s) 1

/-- The first of these forms that the text has decides: a name, a ratio, a decimal, a numeral. -/
def read? (s : List Char) : Option FrameRate :=
  match named? s with
  | some rate => some rate
  | none =>
    match cut? (fun c ↦ c = '/' || c = ':') s with
    | some (num, den) => ratio? num den
    | none =>
      match cut? (· = '.') s with
      | some (whole, fraction) => decimal? whole fraction
      | none => whole? s

def parse (text : String) : Result FrameRate :=
  let s := trim text.toList
  match read? s with
  | some rate => .ok rate
  | none => .error (.invalidConfig (.rateText (String.ofList s)))

instance : ToString FrameRate :=
  ⟨fun rate ↦ if rate.den = 1 then s!"{rate.num}" else s!"{rate.num}/{rate.den}"⟩

end FrameRate

end ScreenCapture

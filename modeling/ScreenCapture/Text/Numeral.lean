namespace ScreenCapture.Numeral

inductive Fault
  | empty
  | badDigit
  | tooLarge
  | tooSmall
deriving DecidableEq, Repr

def Fault.message : Fault → String
  | empty => "cannot parse integer from empty string"
  | badDigit => "invalid digit found in string"
  | tooLarge => "number too large to fit in target type"
  | tooSmall => "number too small to fit in target type"

def digit? (c : Char) : Option Nat := if c.isDigit then some (c.toNat - '0'.toNat) else none

/-- Reads on from left to right; the first character that is no digit or passes `limit` ends it. -/
def readDigits (limit : Nat) (value : Nat) : List Char → Except Fault Nat
  | [] => .ok value
  | c :: s =>
    match digit? c with
    | none => .error .badDigit
    | some d =>
      if limit < value * 10 + d then .error .tooLarge else readDigits limit (value * 10 + d) s

def readMagnitude (limit : Nat) (s : List Char) : Except Fault Nat :=
  if s.isEmpty then .error .badDigit else readDigits limit 0 s

def readNat (limit : Nat) : List Char → Except Fault Nat
  | [] => .error .empty
  | '+' :: s => readMagnitude limit s
  | s => readMagnitude limit s

def readInt (limit : Nat) : List Char → Except Fault Int
  | '-' :: s =>
    match readMagnitude (limit + 1) s with
    | .ok n => .ok (-n)
    | .error .tooLarge => .error .tooSmall
    | .error fault => .error fault
  | s => (readNat limit s).map Int.ofNat

end ScreenCapture.Numeral

import ScreenCapture.Json.Basic

namespace ScreenCapture.Json

inductive Fault
  | incomplete
  | malformed
  /-- The text is JSON so far, but not of the kind that is asked for. -/
  | mismatch
deriving DecidableEq, Repr

/-- Takes characters off the front of a text. The first fault that it meets decides what is wrong. -/
abbrev Reader := StateT (List Char) (Except Fault)

variable {α : Type}

def isSpace (c : Char) : Bool := c = ' ' || c = '\n' || c = '\t' || c = '\r'

def peek : Reader (Option Char) := fun s ↦ .ok (s.head?, s)

def token : Reader (Option Char) := fun s ↦
  .ok ((s.dropWhile isSpace).head?, s.dropWhile isSpace)

def skip : Reader Unit := fun s ↦ .ok ((), s.tail)

def word : List Char → Reader Unit
  | [] => return
  | c :: cs => do
    match ← peek with
    | none => throw .incomplete
    | some d =>
      skip
      if c ≠ d then throw .malformed
      word cs

def digitRun : Reader (List Nat) := fun s ↦
  .ok ((s.takeWhile Char.isDigit).map fun c ↦ c.toNat - '0'.toNat, s.dropWhile Char.isDigit)

def missing : Reader α := do
  match ← peek with
  | none => throw .incomplete
  | some _ => throw .malformed

def hexValue? (c : Char) : Option Nat :=
  if c.isDigit then some (c.toNat - '0'.toNat)
  else if 'a' ≤ c ∧ c ≤ 'f' then some (c.toNat - 'a'.toNat + 10)
  else if 'A' ≤ c ∧ c ≤ 'F' then some (c.toNat - 'A'.toNat + 10)
  else none

def hexNumber? (digits : List Char) : Option Nat :=
  digits.foldlM (fun n c ↦ do return n * 16 + (← hexValue? c)) 0

/-- What is wrong with an escape that has no four hexadecimal digits: there may not even be four
bytes left. -/
def shortEscape (s : List Char) : Fault :=
  if s.foldl (fun size c ↦ size + c.utf8Size) 0 < 4 then .incomplete else .malformed

def isLeading (n : Nat) : Bool := 0xD800 ≤ n && n ≤ 0xDBFF

def isTrailing (n : Nat) : Bool := 0xDC00 ≤ n && n ≤ 0xDFFF

def ofPair (leading trailing : Nat) : Char :=
  Char.ofNat ((leading - 0xD800) * 0x400 + (trailing - 0xDC00) + 0x10000)

def simpleEscape? : Char → Option Char
  | '"' => some '"'
  | '\\' => some '\\'
  | '/' => some '/'
  | 'b' => some '\x08'
  | 'f' => some '\x0c'
  | 'n' => some '\n'
  | 'r' => some '\r'
  | 't' => some '\t'
  | _ => none

def hexUnit : Reader Nat := fun s ↦
  match s with
  | a :: b :: c :: d :: rest =>
    match hexNumber? [a, b, c, d] with
    | some n => .ok (n, rest)
    | none => .error (shortEscape s)
  | _ => .error (shortEscape s)

/-- A character whose escape begins with the letter u, which is taken. Those beyond the first plane
take a pair of escapes. -/
def unicodeEscape : Reader Char := do
  let n ← hexUnit
  if isTrailing n then throw .malformed
  if isLeading n then
    word ['\\', 'u']
    let m ← hexUnit
    if !isTrailing m then throw .malformed
    return ofPair n m
  return Char.ofNat n

def escape : Reader Char := do
  match ← peek with
  | none => throw .incomplete
  | some c =>
    skip
    if c = 'u' then unicodeEscape
    else
      match simpleEscape? c with
      | some d => return d
      | none => throw .malformed

/-- The characters up to the closing quote. Each takes at least one character of the text, and
`fuel` is as many as there are. -/
def stringRest : Nat → Reader (List Char)
  | 0 => throw .incomplete
  | fuel + 1 => do
    match ← peek with
    | none => throw .incomplete
    | some c =>
      skip
      if c = '"' then return []
      else if c = '\\' then return (← escape) :: (← stringRest fuel)
      else if c.toNat < 32 then throw .malformed
      else return c :: (← stringRest fuel)

def remaining : Reader Nat := fun s ↦ .ok (s.length, s)

def string : Reader String := do
  return String.ofList (← stringRest ((← remaining) + 1))

/-- Passes over an escape whose backslash is taken, whatever character it means. -/
def skipEscape : Reader Unit := do
  match ← peek with
  | none => throw .incomplete
  | some c =>
    skip
    if c = 'u' then discard hexUnit
    else if (simpleEscape? c).isNone then throw .malformed

def skipStringRest : Nat → Reader Unit
  | 0 => throw .incomplete
  | fuel + 1 => do
    match ← peek with
    | none => throw .incomplete
    | some c =>
      skip
      if c = '"' then return
      else if c = '\\' then
        skipEscape
        skipStringRest fuel
      else if c.toNat < 32 then throw .malformed
      else skipStringRest fuel

def skipString : Reader Unit := do skipStringRest ((← remaining) + 1)

/-- Takes digits into the number `n` as long as it fits a 64-bit word, and tells how many more
there are. -/
def absorb (n : Nat) : List Nat → Nat × Nat
  | [] => (n, 0)
  | d :: ds =>
    if 0xffffffffffffffff < n * 10 + d then (n, (d :: ds).length) else absorb (n * 10 + d) ds

def tenTo (e : Nat) : Float := Float.ofScientific 1 false e

def scaled? (n : Nat) (e : Int) : Option Float :=
  let x := (UInt64.ofNat n).toFloat
  if n = 0 then some 0
  else if 308 < e then none
  else if 0 ≤ e then
    let y := x * tenTo e.toNat
    if y.isInf then none else some y
  else if -308 ≤ e then some (x / tenTo (-e).toNat)
  else if -616 ≤ e then some (x / tenTo 308 / tenTo (-e - 308).toNat)
  else some 0

def real (negative : Bool) (n : Nat) (e : Int) : Reader Number := do
  match scaled? n e with
  | none => throw .malformed
  | some x => return .real (if negative then -x else x)

def exponent (negative : Bool) (n : Nat) (e : Int) : Reader Number := do
  let sign ← peek
  if sign = some '+' ∨ sign = some '-' then skip
  let ds ← digitRun
  if ds.isEmpty then missing
  let size : Nat := ds.foldl (fun v d ↦ v * 10 + d) 0
  if 0x7fffffff < size then
    if n ≠ 0 ∧ sign ≠ some '-' then throw .malformed
    return .real (if negative then -0.0 else 0.0)
  real negative n (clamp32 (if sign = some '-' then e - size else e + size))
where
  clamp32 (v : Int) : Int := max (-2147483648) (min 2147483647 v)

def isExponentMark (c : Option Char) : Bool := c = some 'e' || c = some 'E'

def fraction (negative : Bool) (n : Nat) (e : Int) : Reader Number := do
  let ds ← digitRun
  if ds.isEmpty then missing
  let (n, surplus) := absorb n ds
  let e := e - (ds.length - surplus : Nat)
  if isExponentMark (← peek) then
    skip
    exponent negative n e
  else real negative n e

def integer (negative : Bool) (n : Nat) : Number :=
  if !negative then .integer n
  else if 0 < n ∧ n ≤ 0x8000000000000000 then .integer (-n)
  else .real (-(UInt64.ofNat n).toFloat)

def number (negative : Bool) : Reader Number := do
  match ← digitRun with
  | [] => missing
  | 0 :: _ :: _ => throw .malformed
  | ds =>
    let (n, surplus) := absorb 0 ds
    let next ← peek
    if next = some '.' then
      skip
      fraction negative n surplus
    else if isExponentMark next then
      skip
      exponent negative n surplus
    else if surplus = 0 then return integer negative n
    else real negative n surplus

def skipDigits : Reader Unit := do
  if (← digitRun).isEmpty then throw .malformed

def skipNumber : Reader Unit := do
  match ← digitRun with
  | [] => throw .malformed
  | 0 :: _ :: _ => throw .malformed
  | _ =>
    if (← peek) = some '.' then
      skip
      skipDigits
    if isExponentMark (← peek) then
      skip
      let sign ← peek
      if sign = some '+' ∨ sign = some '-' then skip
      skipDigits

def nextElement (first : Bool) : Reader Bool := do
  match ← token with
  | none => throw .incomplete
  | some ']' => return false
  | some c =>
    if first then return true
    if c ≠ ',' then throw .malformed
    skip
    match ← token with
    | none => throw .incomplete
    | some ']' => throw .malformed
    | some _ => return true

def nextMember (first : Bool) : Reader Bool := do
  match ← token with
  | none => throw .incomplete
  | some '}' => return false
  | some c =>
    if first then quote c
    else
      if c ≠ ',' then throw .malformed
      skip
      match ← token with
      | none => throw .incomplete
      | some c => quote c
where
  quote (c : Char) : Reader Bool := do
    if c ≠ '"' then throw .malformed
    skip
    return true

def colon : Reader Unit := do
  match ← token with
  | none => throw .incomplete
  | some c =>
    if c ≠ ':' then throw .malformed
    skip

def close (bracket : Char) : Reader Unit := do
  match ← token with
  | none => throw .incomplete
  | some c =>
    if c ≠ bracket then throw .malformed
    skip

mutual

def skipValue : Nat → Reader Unit
  | 0 => throw .incomplete
  | fuel + 1 => do
    match ← token with
    | none => throw .incomplete
    | some c =>
      if c = '[' then
        skip
        skipElements fuel true
      else if c = '{' then
        skip
        skipMembers fuel true
      else if c = 'n' then word "null".toList
      else if c = 't' then word "true".toList
      else if c = 'f' then word "false".toList
      else if c = '"' then
        skip
        skipString
      else if c = '-' then
        skip
        skipNumber
      else if c.isDigit then skipNumber
      else throw .malformed

def skipElements : Nat → Bool → Reader Unit
  | 0, _ => throw .incomplete
  | fuel + 1, first => do
    if ← nextElement first then
      skipValue fuel
      skipElements fuel false
    else skip

def skipMembers : Nat → Bool → Reader Unit
  | 0, _ => throw .incomplete
  | fuel + 1, first => do
    if ← nextMember first then
      skipString
      colon
      skipValue fuel
      skipMembers fuel false
    else skip

end

mutual

def value : Nat → Reader Value
  | 0 => throw .incomplete
  | fuel + 1 => do
    match ← token with
    | none => throw .incomplete
    | some c =>
      if c = '[' then
        skip
        return .array (← elements fuel true)
      else if c = '{' then
        skip
        return .object (← members fuel true)
      else if c = 'n' then
        word "null".toList
        return .null
      else if c = 't' then
        word "true".toList
        return .bool true
      else if c = 'f' then
        word "false".toList
        return .bool false
      else if c = '"' then
        skip
        return .string (← string)
      else if c = '-' then
        skip
        return .number (← number true)
      else if c.isDigit then return .number (← number false)
      else throw .malformed

def elements : Nat → Bool → Reader (List Value)
  | 0, _ => throw .incomplete
  | fuel + 1, first => do
    if ← nextElement first then
      let v ← value fuel
      return v :: (← elements fuel false)
    else
      skip
      return []

def members : Nat → Bool → Reader (List (String × Value))
  | 0, _ => throw .incomplete
  | fuel + 1, first => do
    if ← nextMember first then
      let name ← string
      colon
      let v ← value fuel
      return (name, v) :: (← members fuel false)
    else
      skip
      return []

end

def Reader.run (reader : Reader α) (text : String) : Except Fault α :=
  StateT.run' (do
    let a ← reader
    if (← token).isSome then throw .malformed
    return a) text.toList

def parse (text : String) : Except Fault Value := Reader.run (value (2 * text.length + 2)) text

end ScreenCapture.Json

import ScreenCapture.Json.Reader
import ScreenCapture.Options

namespace ScreenCapture

open Json

namespace Json

variable {α : Type}

/-- A value of a kind that is not wanted. Its notation is read first, up to the bracket of a list
or an object. -/
def unwanted : Reader α := do
  match ← token with
  | none => throw .incomplete
  | some c =>
    if c = 'n' then word "null".toList
    else if c = 't' then word "true".toList
    else if c = 'f' then word "false".toList
    else if c = '"' then
      skip
      discard string
    else if c = '-' then
      skip
      discard (number true)
    else if c.isDigit then discard (number false)
    else if c ≠ '[' ∧ c ≠ '{' then throw .malformed
    throw .mismatch

def flag : Reader Bool := do
  match ← token with
  | some 't' =>
    word "true".toList
    return true
  | some 'f' =>
    word "false".toList
    return false
  | _ => unwanted

def int32 : Reader Int32 := do
  match ← token with
  | some '-' =>
    skip
    narrow (← number true)
  | some c => if c.isDigit then narrow (← number false) else unwanted
  | none => throw .incomplete
where
  narrow : Number → Reader Int32
    | .integer v => if Coordinate.InRange v then return Int32.ofInt v else throw .mismatch
    | .real _ => throw .mismatch

def parsed (parse : String → Result α) : Reader α := do
  match ← token with
  | some '"' =>
    skip
    match parse (← string) with
    | .ok a => return a
    | .error _ => throw .mismatch
  | _ => unwanted

def orNull (reader : Reader α) : Reader (Option α) := do
  match ← token with
  | some 'n' =>
    word "null".toList
    return none
  | _ => return some (← reader)

end Json

namespace OptionField

def reader : OptionField → Reader Setting
  | drawMouse => return .drawMouse (← flag)
  | showRegion => return .showRegion (← flag)
  | frameRate => return .frameRate (← parsed FrameRate.parse)
  | videoSize => return .videoSize ((← orNull (parsed VideoSize.parse)).map VideoSize.sides)
  | offsetX => return .offsetX (← int32)
  | offsetY => return .offsetY (← int32)
  | nonblocking => return .nonblocking (← flag)

end OptionField

namespace CaptureOptions

def readElements (first : Bool) (options : CaptureOptions) :
    List OptionField → Reader CaptureOptions
  | [] => return options
  | field :: fields => do
    if ← nextElement first then
      readElements false (options.apply (← field.reader)) fields
    else return options

/-- The rest of an object. An option can be given only once. -/
def readMembers (first : Bool) (given : List OptionField) (options : CaptureOptions) :
    Nat → Reader CaptureOptions
  | 0 => throw .incomplete
  | fuel + 1 => do
    if ← nextMember first then
      match OptionField.ofName? (← string) with
      | some field =>
        if field ∈ given then throw .mismatch
        colon
        readMembers false (field :: given) (options.apply (← field.reader)) fuel
      | none =>
        colon
        skipValue (2 * (← remaining) + 2)
        readMembers false given options fuel
    else return options

def reader : Reader CaptureOptions := do
  match ← token with
  | some '[' =>
    skip
    let options ← readElements true standard OptionField.all
    close ']'
    return options
  | some '{' =>
    skip
    let options ← readMembers true [] standard ((← remaining) + 1)
    close '}'
    return options
  | _ => unwanted

def parse (text : String) : Except Fault CaptureOptions := reader.run text

end CaptureOptions

def FrameRate.parseJson (text : String) : Except Fault FrameRate :=
  (parsed FrameRate.parse).run text

def VideoSize.parseJson (text : String) : Except Fault VideoSize :=
  (parsed VideoSize.parse).run text

end ScreenCapture

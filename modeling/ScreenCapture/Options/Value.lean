import ScreenCapture.Json.Printer
import ScreenCapture.Options
import ScreenCapture.Text.Quoted

namespace ScreenCapture

open Json (Value)

/-- Why a JSON value does not stand for what is wanted. -/
inductive Mismatch
  | kind (found : Value) (expected : String)
  | range (found : Int) (expected : String)
  | length (found : Nat)
  | refused (error : CaptureError)

namespace Mismatch

def describe : Value → String
  | .null => "null"
  | .bool b => s!"boolean `{b}`"
  | .number (.integer v) => s!"integer `{v}`"
  | .number (.real x) => s!"floating point `{Decimal.ofFloat x}`"
  | .string text => s!"string {Text.quoted text}"
  | .array _ => "sequence"
  | .object _ => "map"

def message : Mismatch → String
  | kind found expected => s!"invalid type: {describe found}, expected {expected}"
  | range found expected => s!"invalid value: integer `{found}`, expected {expected}"
  | length found => s!"invalid length {found}, expected fewer elements in array"
  | refused error => error.message

end Mismatch

namespace Json.Value

abbrev Decoded (α : Type) := Except Mismatch α

def toFlag : Value → Decoded Bool
  | .bool b => .ok b
  | v => .error (.kind v "a boolean")

def toText : Value → Decoded String
  | .string text => .ok text
  | v => .error (.kind v "a string")

def toInt32 : Value → Decoded Int32
  | .number (.integer v) =>
    if Coordinate.InRange v then .ok (Int32.ofInt v) else .error (.range v "i32")
  | v => .error (.kind v "i32")

def toParsed {α : Type} (parse : String → Result α) (v : Value) : Decoded α := do
  (parse (← v.toText)).mapError .refused

def toFrameRate : Value → Decoded FrameRate := toParsed FrameRate.parse

def toVideoSize : Value → Decoded VideoSize := toParsed VideoSize.parse

def toOption {α : Type} (decode : Value → Decoded α) : Value → Decoded (Option α)
  | .null => .ok none
  | v => some <$> decode v

end Json.Value

def FrameRate.toValue (rate : FrameRate) : Value := .string (toString rate)

def VideoSize.Sides.toValue (sides : Sides) : Value := .string (toString sides)

namespace OptionField

def ofValue (v : Value) : OptionField → Except Mismatch Setting
  | drawMouse => return .drawMouse (← v.toFlag)
  | showRegion => return .showRegion (← v.toFlag)
  | frameRate => return .frameRate (← v.toFrameRate)
  | videoSize => return .videoSize ((← v.toOption Value.toVideoSize).map VideoSize.sides)
  | offsetX => return .offsetX (← v.toInt32)
  | offsetY => return .offsetY (← v.toInt32)
  | nonblocking => return .nonblocking (← v.toFlag)

def byName : List OptionField :=
  [drawMouse, frameRate, nonblocking, offsetX, offsetY, showRegion, videoSize]

def toValue (options : CaptureOptions) : OptionField → Value
  | drawMouse => .bool options.drawMouse
  | showRegion => .bool options.showRegion
  | frameRate => options.frameRate.toValue
  | videoSize => options.videoSize.elim .null VideoSize.Sides.toValue
  | offsetX => .int options.offsetX.toInt
  | offsetY => .int options.offsetY.toInt
  | nonblocking => .bool options.nonblocking

end OptionField

namespace CaptureOptions

def toValue (options : CaptureOptions) : Value :=
  .object (OptionField.all.map fun field ↦ (field.name, field.toValue options))

/-- Reads the options of an object in the order of their names, and those of a list in the order
in which options are written. -/
def ofValue : Value → Except Mismatch CaptureOptions
  | .object members => OptionField.byName.foldlM (fun options field ↦
      match (Value.object members).member? field.name with
      | some v => options.apply <$> field.ofValue v
      | none => .ok options) standard
  | .array elements => do
    let options ← (OptionField.all.zip elements).foldlM
      (fun options (field, v) ↦ options.apply <$> field.ofValue v) standard
    if OptionField.all.length < elements.length then throw (.length elements.length)
    return options
  | v => .error (.kind v "struct CaptureOptions")

end CaptureOptions

end ScreenCapture

import ScreenCapture.Json.Basic

namespace ScreenCapture.Json.Value

def asInt? : Value → Option Int
  | .number (.integer v) => some v
  | _ => none

def asNat? : Value → Option Nat
  | .number (.integer (.ofNat n)) => some n
  | _ => none

def asText? : Value → Option String
  | .string text => some text
  | _ => none

def asBool? : Value → Option Bool
  | .bool b => some b
  | _ => none

def elements? : Value → Option (List Value)
  | .array elements => some elements
  | _ => none

variable {α : Type} (decode : Value → Option α)

def asList? (v : Value) : Option (List α) := v.elements?.bind (List.mapM decode)

/-- A member that is null counts as left out. -/
def given? (name : String) (v : Value) : Option Value :=
  match v.member? name with
  | some .null => none
  | member => member

def field? (v : Value) (name : String) : Option α := (v.given? name).bind decode

def fieldD (v : Value) (name : String) (other : α) : Option α :=
  match v.given? name with
  | some member => decode member
  | none => some other

end ScreenCapture.Json.Value

namespace ScreenCapture.Json

/-- A number that was written without point and exponent and fits a 64-bit word, or any other. -/
inductive Number
  | integer (value : Int)
  | real (value : Float)
deriving Inhabited

inductive Value
  | null
  | bool (b : Bool)
  | number (n : Number)
  | string (text : String)
  | array (elements : List Value)
  | object (members : List (String × Value))
deriving Inhabited

namespace Value

def int (v : Int) : Value := .number (.integer v)

/-- The member of that name; of several, the last. -/
def member? (name : String) : Value → Option Value
  | object members => members.reverse.lookup name
  | _ => none

end Value

end ScreenCapture.Json

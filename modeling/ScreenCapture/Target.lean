import ScreenCapture.Error

namespace ScreenCapture

/-- The number under which the system knows a window. -/
structure WindowId where
  handle : Int
deriving DecidableEq, Repr, Inhabited

namespace WindowId

def hexDigits : Nat → Nat → List Char
  | 0, _ => []
  | width + 1, n => hexDigits width (n / 16) ++ [Nat.digitChar (n % 16)]

def stableId (window : WindowId) : String :=
  String.ofList (hexDigits 16 (window.handle % 0x10000000000000000).toNat)

end WindowId

inductive CaptureTarget
  | desktop
  | window (title : String)
deriving DecidableEq, Repr, Inhabited

namespace CaptureTarget

def titleMark : List Char := "title=".toList

/-- A title is taken as it stands, but it cannot be empty. -/
def parse (text : String) : Result CaptureTarget :=
  if text = "desktop" then .ok .desktop
  else if titleMark.isPrefixOf text.toList ∧ titleMark.length < text.length then
    .ok (.window (String.ofList (text.toList.drop titleMark.length)))
  else .error (.invalidTarget text)

instance : ToString CaptureTarget where
  toString
    | desktop => "desktop"
    | window title => s!"title={title}"

end CaptureTarget

inductive TargetHandle
  | desktop
  | window (id : WindowId)
deriving DecidableEq, Repr, Inhabited

end ScreenCapture

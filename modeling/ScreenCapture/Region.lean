import ScreenCapture.Error

namespace ScreenCapture

/-- A whole number of bytes, at least one, makes up a pixel. -/
def WholeBytes (depth : Nat) : Prop := depth ≠ 0 ∧ depth % 8 = 0

instance (depth : Nat) : Decidable (WholeBytes depth) := inferInstanceAs (Decidable (_ ∧ _))

/-- A size and the place of its top left corner, in physical pixels. -/
structure CaptureRequest where
  width : Nat
  height : Nat
  offsetX : Int
  offsetY : Int
deriving DecidableEq, Repr

namespace CaptureRequest

def wholeArea : CaptureRequest := ⟨0, 0, 0, 0⟩

instance : Inhabited CaptureRequest := ⟨wholeArea⟩

def IsWholeArea (request : CaptureRequest) : Prop := request.width = 0 ∨ request.height = 0

instance (request : CaptureRequest) : Decidable request.IsWholeArea :=
  inferInstanceAs (Decidable (_ ∨ _))

def clip (request : CaptureRequest) (area : Rect) : Result Rect :=
  if request.IsWholeArea then .ok area
  else if Coordinate.greatest < request.width ∨ Coordinate.greatest < request.height then
    .error .bufferOverflow
  else .ok (.ofOriginSize request.offsetX request.offsetY request.width request.height)

/-- The rectangle to capture. That it lies inside `area` is checked before its size and depth. -/
def select (request : CaptureRequest) (area : Rect) (depth : Nat) : Result Rect := do
  let rect ← request.clip area
  if ¬ area.Encloses rect then throw (.outOfBounds rect area)
  if rect.IsEmpty ∨ ¬ WholeBytes depth then
    throw (.invalidConfig (.area rect.width rect.height depth))
  return rect

end CaptureRequest

end ScreenCapture

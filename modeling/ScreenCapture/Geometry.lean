namespace ScreenCapture

def clamp (low high v : Int) : Int := max low (min high v)

namespace Coordinate

def least : Int := -2147483648

def greatest : Int := 2147483647

def InRange (v : Int) : Prop := least ≤ v ∧ v ≤ greatest

instance (v : Int) : Decidable (InRange v) := inferInstanceAs (Decidable (_ ∧ _))

/-- Sums and sizes that would leave the range of coordinates stop at its ends. -/
def saturate (v : Int) : Int := clamp least greatest v

/-- Differences that would leave the range have no result. -/
def hold? (v : Int) : Option Int := if InRange v then some v else none

def sub? (a b : Int) : Option Int := hold? (a - b)

/-- Takes the numbers of a list away one after the other. -/
def less? (v : Int) (l : List Int) : Option Int := l.foldlM sub? v

end Coordinate

structure Point where
  x : Int
  y : Int
deriving DecidableEq, Repr, Inhabited

structure Resolution where
  width : Int
  height : Int
deriving DecidableEq, Repr, Inhabited

namespace Resolution

def Positive (r : Resolution) : Prop := 0 < r.width ∧ 0 < r.height

instance (r : Resolution) : Decidable r.Positive := inferInstanceAs (Decidable (_ ∧ _))

instance : ToString Resolution := ⟨fun r ↦ s!"{r.width}x{r.height}"⟩

end Resolution

/-- The pixels from `left` and `top` on, up to but not including `right` and `bottom`. -/
structure Rect where
  left : Int
  top : Int
  right : Int
  bottom : Int
deriving DecidableEq, Repr

namespace Rect

def zero : Rect := ⟨0, 0, 0, 0⟩

instance : Inhabited Rect := ⟨zero⟩

def ofOriginSize (x y width height : Int) : Rect :=
  ⟨x, y, Coordinate.saturate (x + width), Coordinate.saturate (y + height)⟩

def InRange (r : Rect) : Prop :=
  Coordinate.InRange r.left ∧ Coordinate.InRange r.top ∧
    Coordinate.InRange r.right ∧ Coordinate.InRange r.bottom

instance (r : Rect) : Decidable r.InRange := inferInstanceAs (Decidable (_ ∧ _))

def width (r : Rect) : Int := Coordinate.saturate (r.right - r.left)

def height (r : Rect) : Int := Coordinate.saturate (r.bottom - r.top)

def origin (r : Rect) : Point := ⟨r.left, r.top⟩

/-- The lowest pixel on the right, if both of its coordinates exist. -/
def last? (r : Rect) : Option Point := do
  return ⟨← Coordinate.sub? r.right 1, ← Coordinate.sub? r.bottom 1⟩

def IsEmpty (r : Rect) : Prop := r.width ≤ 0 ∨ r.height ≤ 0

instance (r : Rect) : Decidable r.IsEmpty := inferInstanceAs (Decidable (_ ∨ _))

instance : Membership Point Rect :=
  ⟨fun r p ↦ (r.left ≤ p.x ∧ p.x < r.right) ∧ r.top ≤ p.y ∧ p.y < r.bottom⟩

instance (p : Point) (r : Rect) : Decidable (p ∈ r) := inferInstanceAs (Decidable (_ ∧ _))

def Encloses (outer inner : Rect) : Prop :=
  outer.left ≤ inner.left ∧ outer.top ≤ inner.top ∧
    inner.right ≤ outer.right ∧ inner.bottom ≤ outer.bottom

instance (outer inner : Rect) : Decidable (outer.Encloses inner) :=
  inferInstanceAs (Decidable (_ ∧ _))

/-- The smallest rectangle that encloses both, where an empty one does not count. -/
def union (r s : Rect) : Rect :=
  if r.IsEmpty then s
  else if s.IsEmpty then r
  else ⟨min r.left s.left, min r.top s.top, max r.right s.right, max r.bottom s.bottom⟩

def center (r : Rect) : Point :=
  ⟨r.left + r.width.tdiv 2, r.top + r.height.tdiv 2⟩

instance : ToString Rect :=
  ⟨fun r ↦ s!"({r.left},{r.top}),({r.right},{r.bottom})"⟩

end Rect

end ScreenCapture

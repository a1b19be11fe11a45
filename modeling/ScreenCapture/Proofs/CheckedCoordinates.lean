import ScreenCapture.Overlay
import ScreenCapture.Proofs.Rectangles

namespace ScreenCapture

namespace Coordinate

variable {a b v : Int}

def add? (a b : Int) : Option Int := hold? (a + b)

/-- None of the differences on the way leaves the range of coordinates. -/
def Stays : Int → List Int → Prop
  | _, [] => True
  | v, a :: l => InRange (v - a) ∧ Stays (v - a) l

def decideStays : (v : Int) → (l : List Int) → Decidable (Stays v l)
  | _, [] => isTrue trivial
  | v, a :: l => @instDecidableAnd _ _ _ (decideStays (v - a) l)

instance (v : Int) (l : List Int) : Decidable (Stays v l) := decideStays v l

theorem less?_eq (v : Int) (l : List Int) :
    less? v l = if Stays v l then some (l.foldl (· - ·) v) else none := by
  induction l generalizing v with
  | nil => rfl
  | cons a l ih =>
    by_cases hstep : InRange (v - a)
    · have hstays : Stays v (a :: l) ↔ Stays (v - a) l := and_iff_right hstep
      simp only [hstays, List.foldl_cons, ← ih]
      rw [less?, List.foldlM_cons, sub?, hold?_of_inRange hstep]
      rfl
    · rw [if_neg fun h ↦ hstep h.1, less?, List.foldlM_cons, sub?, hold?_of_not_inRange hstep]
      rfl

theorem less?_pair {α : Type} (f : Int → Int → α) (v u : Int) (l k : List Int) :
    (do return f (← less? v l) (← less? u k)) =
      if Stays v l ∧ Stays u k then some (f (l.foldl (· - ·) v) (k.foldl (· - ·) u)) else none := by
  rw [less?_eq, less?_eq]
  by_cases hv : Stays v l
  · by_cases hu : Stays u k <;> simp [hv, hu]
  · simp [hv]

theorem stays_of_natAbs_le {k n : Nat} {l : List Int} (hv : v.natAbs ≤ n)
    (hl : ∀ a ∈ l, a.natAbs ≤ k) (hfit : n + l.length * k ≤ 0x7fffffff) : Stays v l := by
  induction l generalizing v n with
  | nil => trivial
  | cons a l ih =>
    rw [List.length_cons, Nat.add_one_mul] at hfit
    obtain ⟨ha, hrest⟩ := List.forall_mem_cons.mp hl
    have hstep : (v - a).natAbs ≤ n + k :=
      Nat.le_trans (Int.natAbs_sub_le v a) (Nat.add_le_add hv ha)
    refine ⟨?_, ih hstep hrest (by omega)⟩
    simp only [InRange, least, greatest]
    omega

/-- Half of the way to another coordinate, rounded toward the start, does not lead past it. -/
theorem inRange_add_half (ha : InRange a) (hb : InRange b) :
    InRange (a + (saturate (b - a)).tdiv 2) := by
  have htwo : (0 : Int) < 2 := by decide
  have hsplit := Int.mul_tdiv_add_tmod (saturate (b - a)) 2
  have hlow := Int.lt_tmod_of_pos (saturate (b - a)) htwo
  have hhigh := Int.tmod_lt_of_pos (saturate (b - a)) htwo
  simp only [InRange, saturate, clamp, least, greatest] at *
  omega

theorem add_half_lt (hab : a < b) :
    a ≤ a + (saturate (b - a)).tdiv 2 ∧ a + (saturate (b - a)).tdiv 2 < b := by
  have hpos : 0 < saturate (b - a) := by
    simp only [saturate, clamp, least, greatest]
    omega
  -- a distance that is cut off has become shorter
  have hle : saturate (b - a) ≤ b - a := by
    simp only [saturate, clamp, least, greatest] at hpos ⊢
    omega
  rw [Int.tdiv_eq_ediv_of_nonneg (Int.le_of_lt hpos)]
  omega

end Coordinate

open Coordinate

namespace Rect

variable {r : Rect}

def center? (r : Rect) : Option Point := do
  return ⟨← add? r.left (r.width.tdiv 2), ← add? r.top (r.height.tdiv 2)⟩

theorem center?_eq_some (hr : r.InRange) : r.center? = some r.center := by
  obtain ⟨hleft, htop, hright, hbottom⟩ := hr
  have hx : add? r.left (r.width.tdiv 2) = some (r.left + r.width.tdiv 2) :=
    hold?_of_inRange (inRange_add_half hleft hright)
  have hy : add? r.top (r.height.tdiv 2) = some (r.top + r.height.tdiv 2) :=
    hold?_of_inRange (inRange_add_half htop hbottom)
  simp only [center?, hx, hy]
  rfl

theorem center_mem (hr : ¬ r.IsEmpty) : r.center ∈ r := by
  obtain ⟨hcolumns, hrows⟩ := lt_of_not_isEmpty hr
  exact ⟨add_half_lt hcolumns, add_half_lt hrows⟩

end Rect

namespace PointerState

variable (pointer : PointerState) (origin : Point) (scale : Scale) (rect : Rect)

def StaysOnDesktop : Prop :=
  Stays (scale.x pointer.position.x) [rect.left, pointer.hotspot.x] ∧
    Stays (scale.y pointer.position.y) [rect.top, pointer.hotspot.y]

def StaysOnWindow : Prop :=
  Stays pointer.position.x [rect.left, pointer.hotspot.x, origin.x] ∧
    Stays pointer.position.y [rect.top, pointer.hotspot.y, origin.y]

instance : Decidable (pointer.StaysOnDesktop scale rect) := inferInstanceAs (Decidable (_ ∧ _))

instance : Decidable (pointer.StaysOnWindow origin rect) := inferInstanceAs (Decidable (_ ∧ _))

theorem onDesktop?_eq : pointer.onDesktop? scale rect =
    if pointer.StaysOnDesktop scale rect then
      some ⟨scale.x pointer.position.x - rect.left - pointer.hotspot.x,
        scale.y pointer.position.y - rect.top - pointer.hotspot.y⟩
    else none :=
  less?_pair Point.mk _ _ _ _

variable {pointer scale rect} in
theorem onDesktop?_eq_none :
    pointer.onDesktop? scale rect = none ↔ ¬ pointer.StaysOnDesktop scale rect := by
  rw [onDesktop?_eq, ite_eq_right_iff, imp_iff_not (Option.some_ne_none _)]

variable {pointer scale rect} in
theorem eq_of_onDesktop? {point : Point} (hp : pointer.onDesktop? scale rect = some point) :
    point = ⟨scale.x pointer.position.x - rect.left - pointer.hotspot.x,
      scale.y pointer.position.y - rect.top - pointer.hotspot.y⟩ := by
  rw [onDesktop?_eq, Option.ite_none_right_eq_some] at hp
  exact (Option.some.inj hp.2).symm

theorem onWindow?_eq : pointer.onWindow? origin scale rect =
    if pointer.StaysOnWindow origin rect then
      some ⟨scale.x (pointer.position.x - rect.left - pointer.hotspot.x - origin.x),
        scale.y (pointer.position.y - rect.top - pointer.hotspot.y - origin.y)⟩
    else none :=
  less?_pair (fun x y ↦ Point.mk (scale.x x) (scale.y y)) _ _ _ _

variable {pointer origin scale rect} in
theorem onWindow?_eq_none :
    pointer.onWindow? origin scale rect = none ↔ ¬ pointer.StaysOnWindow origin rect := by
  rw [onWindow?_eq, ite_eq_right_iff, imp_iff_not (Option.some_ne_none _)]

variable {pointer origin scale rect} in
theorem eq_of_onWindow? {point : Point} (hp : pointer.onWindow? origin scale rect = some point) :
    point = ⟨scale.x (pointer.position.x - rect.left - pointer.hotspot.x - origin.x),
      scale.y (pointer.position.y - rect.top - pointer.hotspot.y - origin.y)⟩ := by
  rw [onWindow?_eq, Option.ite_none_right_eq_some] at hp
  exact (Option.some.inj hp.2).symm

end PointerState

end ScreenCapture

import ScreenCapture.Monitor

namespace ScreenCapture

namespace Coordinate

variable {v : Int}

theorem hold?_of_inRange (hv : InRange v) : hold? v = some v := if_pos hv

theorem hold?_of_not_inRange (hv : ¬ InRange v) : hold? v = none := if_neg hv

end Coordinate

namespace Rect

variable {r s box : Rect} {rects : List Rect}

theorem mem_iff {p : Point} :
    p ∈ r ↔ (r.left ≤ p.x ∧ p.x < r.right) ∧ r.top ≤ p.y ∧ p.y < r.bottom := Iff.rfl

theorem isEmpty_iff : r.IsEmpty ↔ r.right ≤ r.left ∨ r.bottom ≤ r.top := by
  simp only [IsEmpty, width, height, Coordinate.saturate, clamp, Coordinate.least,
    Coordinate.greatest]
  omega

theorem width_le (r : Rect) : r.width ≤ Coordinate.greatest := by
  simp only [width, Coordinate.saturate, clamp, Coordinate.least, Coordinate.greatest]
  omega

theorem height_le (r : Rect) : r.height ≤ Coordinate.greatest := by
  simp only [height, Coordinate.saturate, clamp, Coordinate.least, Coordinate.greatest]
  omega

theorem lt_of_not_isEmpty (hr : ¬ r.IsEmpty) : r.left < r.right ∧ r.top < r.bottom := by
  rw [isEmpty_iff] at hr
  omega

theorem not_isEmpty_of_mem {p : Point} (hp : p ∈ r) : ¬ r.IsEmpty := by
  rw [mem_iff] at hp
  rw [isEmpty_iff]
  omega

theorem Encloses.refl (r : Rect) : r.Encloses r :=
  ⟨Int.le_refl _, Int.le_refl _, Int.le_refl _, Int.le_refl _⟩

theorem Encloses.corners_mem (he : r.Encloses s) (hs : ¬ s.IsEmpty) :
    (⟨s.left, s.top⟩ : Point) ∈ r ∧ (⟨s.right - 1, s.bottom - 1⟩ : Point) ∈ r := by
  have hpixels := lt_of_not_isEmpty hs
  simp only [Encloses] at he
  simp only [mem_iff]
  omega

def LastInRange (r : Rect) : Prop :=
  Coordinate.InRange (r.right - 1) ∧ Coordinate.InRange (r.bottom - 1)

instance (r : Rect) : Decidable r.LastInRange := inferInstanceAs (Decidable (_ ∧ _))

theorem last?_eq_some (hl : r.LastInRange) : r.last? = some ⟨r.right - 1, r.bottom - 1⟩ := by
  rw [last?, Coordinate.sub?, Coordinate.sub?, Coordinate.hold?_of_inRange hl.1,
    Coordinate.hold?_of_inRange hl.2]
  rfl

theorem last?_eq_none (hl : ¬ r.LastInRange) : r.last? = none := by
  rw [last?, Coordinate.sub?, Coordinate.sub?]
  by_cases hx : Coordinate.InRange (r.right - 1)
  · have hy : ¬ Coordinate.InRange (r.bottom - 1) := fun hy ↦ hl ⟨hx, hy⟩
    rw [Coordinate.hold?_of_inRange hx, Coordinate.hold?_of_not_inRange hy]
    rfl
  · rw [Coordinate.hold?_of_not_inRange hx]
    rfl

theorem lastInRange_of_mem (hs : s.InRange) (hp : (⟨r.right - 1, r.bottom - 1⟩ : Point) ∈ s) :
    r.LastInRange := by
  simp only [mem_iff] at hp
  simp only [InRange, LastInRange, Coordinate.InRange] at hs ⊢
  omega

theorem lastInRange_iff (hr : r.InRange) :
    r.LastInRange ↔ Coordinate.least < r.right ∧ Coordinate.least < r.bottom := by
  simp only [InRange, LastInRange, Coordinate.InRange, Coordinate.least,
    Coordinate.greatest] at hr ⊢
  omega

theorem union_of_isEmpty (hr : r.IsEmpty) : r.union s = s := if_pos hr

theorem union_isEmpty (hs : s.IsEmpty) (hr : ¬ r.IsEmpty) : r.union s = r := by
  rw [union, if_neg hr, if_pos hs]

theorem union_of_not_isEmpty (hr : ¬ r.IsEmpty) (hs : ¬ s.IsEmpty) : r.union s =
    ⟨min r.left s.left, min r.top s.top, max r.right s.right, max r.bottom s.bottom⟩ := by
  rw [union, if_neg hr, if_neg hs]

theorem isEmpty_union : (r.union s).IsEmpty ↔ r.IsEmpty ∧ s.IsEmpty := by
  by_cases hr : r.IsEmpty
  · simp only [union_of_isEmpty hr, hr, true_and]
  · by_cases hs : s.IsEmpty
    · simp only [union_isEmpty hs hr, hr, false_and]
    · rw [union_of_not_isEmpty hr hs]
      simp only [isEmpty_iff] at hr hs ⊢
      omega

def Attains (rects : List Rect) (edge : Rect → Int) (v : Int) : Prop :=
  ∃ r ∈ rects, ¬ r.IsEmpty ∧ edge r = v

/-- The rectangles of a list that have pixels lie in `box`, and each of its edges is one of
theirs. -/
structure Bounds (box : Rect) (rects : List Rect) : Prop where
  encloses : ∀ r ∈ rects, ¬ r.IsEmpty → box.Encloses r
  left : Attains rects Rect.left box.left
  top : Attains rects Rect.top box.top
  right : Attains rects Rect.right box.right
  bottom : Attains rects Rect.bottom box.bottom

theorem Attains.of_subset {rects' : List Rect} {edge : Rect → Int} {v : Int}
    (hsub : ∀ r ∈ rects, ¬ r.IsEmpty → r ∈ rects') (ha : Attains rects edge v) :
    Attains rects' edge v := by
  obtain ⟨r, hmem, hr, hv⟩ := ha
  exact ⟨r, hsub r hmem hr, hr, hv⟩

theorem Bounds.of_mem_iff {rects' : List Rect} (hmem : ∀ r, ¬ r.IsEmpty → (r ∈ rects ↔ r ∈ rects'))
    (hb : box.Bounds rects) : box.Bounds rects' where
  encloses r hr hne := hb.encloses r ((hmem r hne).mpr hr) hne
  left := hb.left.of_subset fun r hr hne ↦ (hmem r hne).mp hr
  top := hb.top.of_subset fun r hr hne ↦ (hmem r hne).mp hr
  right := hb.right.of_subset fun r hr hne ↦ (hmem r hne).mp hr
  bottom := hb.bottom.of_subset fun r hr hne ↦ (hmem r hne).mp hr

theorem Attains.of_union {edge : Rect → Int} {v : Int} (hr : ¬ r.IsEmpty) (hs : ¬ s.IsEmpty)
    (hedge : edge (r.union s) = edge r ∨ edge (r.union s) = edge s)
    (ha : Attains (r.union s :: rects) edge v) : Attains (r :: s :: rects) edge v := by
  obtain ⟨t, hmem, ht, rfl⟩ := ha
  rcases List.mem_cons.mp hmem with rfl | hmem
  · rcases hedge with he | he
    · exact ⟨r, List.mem_cons_self, hr, he.symm⟩
    · exact ⟨s, List.mem_cons_of_mem _ List.mem_cons_self, hs, he.symm⟩
  · exact ⟨t, List.mem_cons_of_mem _ (List.mem_cons_of_mem _ hmem), ht, rfl⟩

theorem Bounds.of_union (hb : box.Bounds (r.union s :: rects)) : box.Bounds (r :: s :: rects) := by
  by_cases hr : r.IsEmpty
  · rw [union_of_isEmpty hr] at hb
    refine hb.of_mem_iff fun t ht ↦ ?_
    simp only [List.mem_cons]
    have hne : t ≠ r := fun he ↦ ht (he ▸ hr)
    simp only [hne, false_or]
  · by_cases hs : s.IsEmpty
    · rw [union_isEmpty hs hr] at hb
      refine hb.of_mem_iff fun t ht ↦ ?_
      have hne : t ≠ s := fun he ↦ ht (he ▸ hs)
      simp only [List.mem_cons, hne, false_or]
    · have hu := union_of_not_isEmpty hr hs
      have hbox : box.Encloses (r.union s) := hb.encloses _ List.mem_cons_self fun hempty ↦
        hr (isEmpty_union.mp hempty).1
      have hedges : box.Encloses r ∧ box.Encloses s := by
        rw [hu] at hbox
        simp only [Encloses] at hbox ⊢
        omega
      refine ⟨?_, hb.left.of_union hr hs ?_, hb.top.of_union hr hs ?_, hb.right.of_union hr hs ?_,
        hb.bottom.of_union hr hs ?_⟩
      · intro t hmem ht
        simp only [List.mem_cons] at hmem
        rcases hmem with rfl | rfl | hmem
        · exact hedges.1
        · exact hedges.2
        · exact hb.encloses t (List.mem_cons_of_mem _ hmem) ht
      all_goals
        rw [hu]
        dsimp only
        omega

theorem bounds_foldl_union (hr : ∃ t ∈ r :: rects, ¬ t.IsEmpty) :
    (rects.foldl union r).Bounds (r :: rects) := by
  induction rects generalizing r with
  | nil =>
    obtain ⟨t, hmem, ht⟩ := hr
    obtain rfl := List.mem_singleton.mp hmem
    have hattains (edge : Rect → Int) : Attains [t] edge (edge t) := ⟨t, hmem, ht, rfl⟩
    refine ⟨fun s hs _ ↦ ?_, hattains _, hattains _, hattains _, hattains _⟩
    obtain rfl := List.mem_singleton.mp hs
    exact .refl s
  | cons s rects ih =>
    refine (ih ?_).of_union
    obtain ⟨t, hmem, ht⟩ := hr
    simp only [List.mem_cons] at hmem
    rcases hmem with rfl | rfl | hmem
    · exact ⟨_, List.mem_cons_self, fun he ↦ ht (isEmpty_union.mp he).1⟩
    · exact ⟨_, List.mem_cons_self, fun he ↦ ht (isEmpty_union.mp he).2⟩
    · exact ⟨t, List.mem_cons_of_mem _ hmem, ht⟩

theorem Bounds.not_isEmpty (hb : box.Bounds rects) : ¬ box.IsEmpty := by
  obtain ⟨r, hmem, hr, -⟩ := hb.left
  have hin := hb.encloses r hmem hr
  have hpixels := lt_of_not_isEmpty hr
  simp only [Encloses] at hin
  rw [isEmpty_iff]
  omega

end Rect

theorem Topology.bounds_boundingRect {rects : List Rect} (hr : ∃ r ∈ rects, ¬ r.IsEmpty) :
    (boundingRect rects).Bounds rects := by
  obtain ⟨r, hmem, hpixels⟩ := hr
  have hb := Rect.bounds_foldl_union (r := .zero) ⟨r, List.mem_cons_of_mem _ hmem, hpixels⟩
  refine hb.of_mem_iff fun t ht ↦ ?_
  have hne : t ≠ .zero := fun he ↦ ht (he ▸ by decide)
  simp only [List.mem_cons, hne, false_or]

end ScreenCapture

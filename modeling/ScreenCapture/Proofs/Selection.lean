import ScreenCapture.Proofs.Mapping
import ScreenCapture.Region

namespace ScreenCapture

namespace Coordinate

theorem inRange_int32 (v : Int32) : InRange v.toInt :=
  ⟨v.le_toInt, Int.le_of_lt_add_one v.toInt_lt⟩

end Coordinate

namespace CaptureRequest

variable {request : CaptureRequest} {area rect : Rect} {depth : Nat}

theorem clip_of_isWholeArea (hw : request.IsWholeArea) : request.clip area = .ok area :=
  if_pos hw

theorem clip_eq_ok_iff (hw : ¬ request.IsWholeArea) : request.clip area = .ok rect ↔
    (request.width ≤ Coordinate.greatest ∧ request.height ≤ Coordinate.greatest) ∧
      rect = .ofOriginSize request.offsetX request.offsetY request.width request.height := by
  rw [clip, if_neg hw]
  split
  · next hlarge =>
    simp only [reduceCtorEq, false_iff]
    omega
  · next hfits =>
    rw [Except.ok.injEq, eq_comm]
    simp only [not_or, Int.not_lt] at hfits
    simp only [hfits, and_self, true_and]

/-- A rectangle is selected if it is in the area, has pixels, and its pixels are whole bytes. -/
theorem select_eq_ok_iff : request.select area depth = .ok rect ↔
    request.clip area = .ok rect ∧ area.Encloses rect ∧ ¬ rect.IsEmpty ∧ WholeBytes depth := by
  rcases hc : request.clip area with error | clipped
  · simp only [select, hc, bind, Except.bind]
    simp
  · simp only [select, hc, bind, Except.bind]
    by_cases hencloses : area.Encloses clipped
    · rw [if_neg (not_not_intro hencloses)]
      by_cases hfault : clipped.IsEmpty ∨ ¬ WholeBytes depth
      · rw [if_pos hfault]
        constructor
        · nofun
        · rintro ⟨he, -, hempty, hwhole⟩
          cases he
          exact absurd hfault (by simp [hempty, hwhole])
      · rw [if_neg hfault]
        constructor
        · intro he
          cases he
          obtain ⟨hempty, hwhole⟩ := not_or.mp hfault
          exact ⟨rfl, hencloses, hempty, Decidable.not_not.mp hwhole⟩
        · rintro ⟨he, -⟩
          cases he
          rfl
    · rw [if_pos hencloses]
      constructor
      · nofun
      · rintro ⟨he, hencloses', -⟩
        cases he
        exact absurd hencloses' hencloses

end CaptureRequest

end ScreenCapture

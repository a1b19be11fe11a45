import ScreenCapture.Proofs.Mapping
import ScreenCapture.Proofs.Width
import Mathlib.Algebra.Order.Group.Unbundled.Int
import Mathlib.Data.Rat.Floor
import Mathlib.Tactic.FieldSimp

namespace ScreenCapture

namespace Scale

variable {physical logical v v' : Int}

theorem along_eq_floor (hl : 0 < logical) : along physical logical v =
    max (-2 ^ 31) (min (2 ^ 31 - 1) ⌊(v * physical / logical : ℚ)⌋) := by
  have hfloor : ⌊(v * physical / logical : ℚ)⌋ = v * physical / logical := by
    lift logical to Nat using hl.le
    exact_mod_cast Rat.floor_intCast_div_natCast (v * physical) logical
  rw [hfloor]
  rfl

theorem along_mono (hp : 0 ≤ physical) (hl : 0 < logical) (hv : v ≤ v') :
    along physical logical v ≤ along physical logical v' := by
  have hfloor : v * physical / logical ≤ v' * physical / logical :=
    Int.ediv_le_ediv hl (Int.mul_le_mul_of_nonneg_right hv hp)
  simp only [along, Coordinate.saturate, clamp]
  omega

theorem along_zero : along physical logical 0 = 0 := by
  rw [along, Int.zero_mul, Int.zero_ediv]
  rfl

theorem along_nonpos (hp : 0 < physical) (hl : 0 < logical) (hv : v ≤ 0) :
    along physical logical v ≤ 0 :=
  (along_mono hp.le hl hv).trans_eq along_zero

theorem along_pos (hl : 0 < logical) (hle : logical ≤ physical) (hv : 0 < v) :
    0 < along physical logical v := by
  have hmul : 1 * logical ≤ v * physical :=
    Int.mul_le_mul hv hle (Int.le_of_lt hl) (Int.le_of_lt hv)
  have hfloor : 1 ≤ v * physical / logical := (Int.le_ediv_iff_mul_le hl).mpr hmul
  simp only [along, Coordinate.saturate, clamp, Coordinate.least, Coordinate.greatest]
  omega

theorem along_of_inRange (hv : Coordinate.InRange (v * physical / logical)) :
    along physical logical v = v * physical / logical := by
  unfold along
  obtain ⟨hlow, hhigh⟩ := hv
  simp only [Coordinate.saturate, clamp]
  omega

theorem inRange_of_along (hlow : 0 ≤ along physical logical v)
    (hhigh : along physical logical v < Coordinate.greatest) :
    Coordinate.InRange (v * physical / logical) := by
  unfold along at hlow hhigh
  simp only [Coordinate.saturate, clamp, Coordinate.least, Coordinate.greatest] at hlow hhigh
  simp only [Coordinate.InRange, Coordinate.least, Coordinate.greatest]
  omega

/-- A position that moves by `d` before it is scaled moves by `moved` pixels: by the scaled `d`, up
to less than one pixel, and by `d` itself where the ratio is one. -/
structure Carries (physical logical d moved : Int) : Prop where
  near : |moved * logical - d * physical| < logical
  exact : physical = logical → moved = d

theorem Carries.near_scaled {d moved : Int} (hl : 0 < logical)
    (hc : Carries physical logical d moved) : |(moved - d * physical / logical : ℚ)| < 1 := by
  have hpos : (0 : ℚ) < logical := by exact_mod_cast hl
  have hquotient : (moved - d * physical / logical : ℚ) =
      (moved * logical - d * physical : Int) / logical := by
    push_cast
    field_simp
  rw [hquotient, abs_div, abs_of_pos hpos, div_lt_one hpos]
  exact_mod_cast hc.near

section

variable (hl : 0 < logical) (hv : Coordinate.InRange (v * physical / logical))
  (hv' : Coordinate.InRange (v' * physical / logical))
include hl hv hv'

theorem carries_along :
    Carries physical logical (v - v') (along physical logical v - along physical logical v') := by
  rw [along_of_inRange hv, along_of_inRange hv']
  refine ⟨?_, ?_⟩
  · have hsplit := Int.mul_ediv_add_emod (v * physical) logical
    have hsplit' := Int.mul_ediv_add_emod (v' * physical) logical
    have hrest : (v * physical / logical - v' * physical / logical) * logical -
        (v - v') * physical = v' * physical % logical - v * physical % logical := by
      -- the two rests are all that is left of the error
      rw [Int.sub_mul, Int.sub_mul, Int.mul_comm (v * physical / logical),
        Int.mul_comm (v' * physical / logical)]
      omega
    have hpos := Int.emod_nonneg (v * physical) hl.ne'
    have hpos' := Int.emod_nonneg (v' * physical) hl.ne'
    have hlt := Int.emod_lt_of_pos (v * physical) hl
    have hlt' := Int.emod_lt_of_pos (v' * physical) hl
    rw [hrest, abs_lt]
    omega
  · rintro rfl
    rw [Int.mul_ediv_cancel _ hl.ne', Int.mul_ediv_cancel _ hl.ne']

theorem sub_le_along (hle : logical ≤ physical) (hvv' : v' ≤ v) :
    v - v' ≤ along physical logical v - along physical logical v' := by
  rw [along_of_inRange hv, along_of_inRange hv']
  -- the scaled distance is added before it is rounded, where whole multiples come out unchanged
  have hmul : (v - v') * logical ≤ (v - v') * physical :=
    Int.mul_le_mul_of_nonneg_left hle (Int.sub_nonneg_of_le hvv')
  have hfloor : (v' * physical + (v - v') * logical) / logical ≤ v * physical / logical := by
    apply Int.ediv_le_ediv hl
    rw [Int.sub_mul v v' physical] at hmul
    omega
  rw [Int.add_mul_ediv_right _ _ hl.ne'] at hfloor
  omega

end

def Enlarges (scale : Scale) : Prop :=
  scale.logical.width ≤ scale.physical.width ∧ scale.logical.height ≤ scale.physical.height

instance (scale : Scale) : Decidable scale.Enlarges := inferInstanceAs (Decidable (_ ∧ _))

def Fits (scale : Scale) (point : Point) : Prop :=
  Coordinate.InRange (point.x * scale.physical.width / scale.logical.width) ∧
    Coordinate.InRange (point.y * scale.physical.height / scale.logical.height)

instance (scale : Scale) (point : Point) : Decidable (scale.Fits point) :=
  inferInstanceAs (Decidable (_ ∧ _))

open Width

/-- The scaled position, if the product and the quotient on the way to it can be held. -/
def along? (bits : Nat) (physical logical v : Int) : Option Int := do
  let product ← mul? bits v physical
  let quotient ← floorDiv? bits product logical
  return Coordinate.saturate quotient

theorem along?_eq_some (hp : 0 < physical) (hp' : physical ≤ Coordinate.greatest)
    (hl : 0 < logical) (hv : Coordinate.InRange v) :
    along? 63 physical logical v = some (along physical logical v) := by
  simp only [Coordinate.InRange, Coordinate.least, Coordinate.greatest] at hp' hv
  have hproduct : (v * physical).natAbs < 2 ^ 63 := by
    rw [Int.natAbs_mul]
    have hle : v.natAbs * physical.natAbs ≤ 2 ^ 31 * 2 ^ 31 :=
      Nat.mul_le_mul (by omega) (by omega)
    omega
  have hquotient : floorDiv? 63 (v * physical) logical = some (v * physical / logical) := by
    rw [floorDiv?, if_neg hl.ne']
    exact hold?_of_lt ((Int.natAbs_ediv_le_natAbs _ _).trans_lt hproduct)
  simp only [along?, mul?, hold?_of_lt hproduct, Option.bind_eq_bind, Option.bind_some, hquotient]
  rfl

theorem exists_new_iff {logical physical : Resolution} :
    (∃ scale, new logical physical = .ok scale) ↔ logical.Positive ∧ physical.Positive := by
  unfold new
  split
  · next hpos => exact ⟨fun _ ↦ hpos, fun _ ↦ ⟨_, rfl⟩⟩
  · next hpos => exact ⟨nofun, fun hpos' ↦ absurd hpos' hpos⟩

theorem of_new {logical physical : Resolution} {scale : Scale}
    (hnew : new logical physical = .ok scale) :
    scale.logical = logical ∧ scale.physical = physical := by
  unfold new at hnew
  split at hnew
  · cases hnew
    exact ⟨rfl, rfl⟩
  · cases hnew

end Scale

def Resolution.InRange (r : Resolution) : Prop :=
  Coordinate.InRange r.width ∧ Coordinate.InRange r.height

instance (r : Resolution) : Decidable r.InRange := inferInstanceAs (Decidable (_ ∧ _))

theorem Monitor.of_new {rect : Rect} {logical physical : Resolution} {monitor : Monitor}
    (hnew : new rect logical physical = .ok monitor) :
    Scale.new logical physical = .ok monitor.scale := by
  rcases hs : Scale.new logical physical with error | scale
  · simp only [new, hs, bind, Except.bind] at hnew
    cases hnew
  · simp only [new, hs, bind, Except.bind] at hnew
    cases hnew
    rfl

theorem Topology.exists_of_scaleOf? {topology : Topology} {rect : Rect} {scale : Scale}
    (hs : topology.scaleOf? rect = some scale) :
    ∃ m ∈ topology.monitors, ∃ n ∈ topology.monitors, scale = .combine m.scale n.scale := by
  obtain ⟨⟨i, j⟩, -, hs⟩ := Option.bind_eq_some_iff.mp hs
  obtain ⟨m, hm, hs⟩ := Option.bind_eq_some_iff.mp hs
  obtain ⟨n, hn, hs⟩ := Option.bind_eq_some_iff.mp hs
  cases hs
  exact ⟨m, mem_monitors_of_get? hm, n, mem_monitors_of_get? hn, rfl⟩

namespace Scale

/-- The ways to get a scale from sizes that are coordinates. -/
inductive Obtained : Scale → Prop
  | new {logical physical : Resolution} {scale : Scale} (hl : logical.InRange)
      (hp : physical.InRange) (hnew : Scale.new logical physical = .ok scale) : Obtained scale
  | identity : Obtained .identity
  | combine {horizontal vertical : Scale} (hh : Obtained horizontal) (hv : Obtained vertical) :
      Obtained (.combine horizontal vertical)
  | monitor {rect : Rect} {logical physical : Resolution} {monitor : Monitor}
      (hl : logical.InRange) (hp : physical.InRange)
      (hnew : Monitor.new rect logical physical = .ok monitor) : Obtained monitor.scale
  | scaleOf? {topology : Topology} {rect : Rect} {scale : Scale}
      (hm : ∀ m ∈ topology.monitors, Obtained m.scale)
      (hs : topology.scaleOf? rect = some scale) : Obtained scale

theorem Obtained.inRange {scale : Scale} (hs : Obtained scale) :
    scale.logical.InRange ∧ scale.physical.InRange := by
  induction hs with
  | new hl hp hnew =>
    obtain ⟨rfl, rfl⟩ := of_new hnew
    exact ⟨hl, hp⟩
  | identity => decide
  | combine hh hv ihh ihv => exact ⟨⟨ihh.1.1, ihv.1.2⟩, ihh.2.1, ihv.2.2⟩
  | monitor hl hp hnew =>
    obtain ⟨rfl, rfl⟩ := of_new (Monitor.of_new hnew)
    exact ⟨hl, hp⟩
  | scaleOf? hm hs ih =>
    obtain ⟨m, hmem, n, hmem', rfl⟩ := Topology.exists_of_scaleOf? hs
    exact ⟨⟨(ih m hmem).1.1, (ih n hmem').1.2⟩, (ih m hmem).2.1, (ih n hmem').2.2⟩

variable (scale : Scale)

theorem x_mono {v v' : Int} (hv : v ≤ v') : scale.x v ≤ scale.x v' :=
  along_mono (Int.le_of_lt scale.physical_pos.1) scale.logical_pos.1 hv

theorem y_mono {v v' : Int} (hv : v ≤ v') : scale.y v ≤ scale.y v' :=
  along_mono (Int.le_of_lt scale.physical_pos.2) scale.logical_pos.2 hv

theorem mapRect_encloses {outer inner : Rect} (he : outer.Encloses inner) :
    (scale.mapRect outer).Encloses (scale.mapRect inner) := by
  obtain ⟨hleft, htop, hright, hbottom⟩ := he
  exact ⟨scale.x_mono hleft, scale.y_mono htop, scale.x_mono hright, scale.y_mono hbottom⟩

/-- A product and a quotient of numbers of 32 bits can be held in 64 bits, and what comes of them is
the exact ratio, rounded down and cut off where the coordinates end. So positions keep their order
and rectangles what they contain. Where nothing is cut off, the size of a rectangle is off by less
than one pixel, and on an axis on which pixels are not merged it does not shrink. -/
theorem scaling_rounds_down :
    (∀ logical physical : Resolution, (∃ scale, new logical physical = .ok scale) ↔
      logical.Positive ∧ physical.Positive) ∧
    ∀ scale : Scale, scale.Obtained →
      (scale.logical.Positive ∧ scale.physical.Positive) ∧
      (∀ v, Coordinate.InRange v →
        along? 63 scale.physical.width scale.logical.width v = some (scale.x v) ∧
        along? 63 scale.physical.height scale.logical.height v = some (scale.y v)) ∧
      (∀ v : Int,
        scale.x v = max (-2 ^ 31)
          (min (2 ^ 31 - 1) ⌊(v * scale.physical.width / scale.logical.width : ℚ)⌋) ∧
        scale.y v = max (-2 ^ 31)
          (min (2 ^ 31 - 1) ⌊(v * scale.physical.height / scale.logical.height : ℚ)⌋)) ∧
      (∀ v v' : Int, v ≤ v' → scale.x v ≤ scale.x v' ∧ scale.y v ≤ scale.y v') ∧
      (∀ outer inner : Rect, outer.Encloses inner →
        (scale.mapRect outer).Encloses (scale.mapRect inner)) ∧
      ∀ rect : Rect, rect.left ≤ rect.right → rect.top ≤ rect.bottom →
        scale.Fits ⟨rect.left, rect.top⟩ → scale.Fits ⟨rect.right, rect.bottom⟩ →
          let image := scale.mapRect rect
          |((image.right - image.left : Int) -
            (rect.right - rect.left : Int) * scale.physical.width / scale.logical.width : ℚ)| < 1 ∧
          |((image.bottom - image.top : Int) -
            (rect.bottom - rect.top : Int) * scale.physical.height / scale.logical.height : ℚ)| < 1 ∧
          (scale.logical.width ≤ scale.physical.width →
            rect.right - rect.left ≤ image.right - image.left) ∧
          (scale.logical.height ≤ scale.physical.height →
            rect.bottom - rect.top ≤ image.bottom - image.top) ∧
          (scale.Enlarges → ¬ rect.IsEmpty → ¬ image.IsEmpty) := by
  refine ⟨fun _ _ ↦ exists_new_iff, fun scale hs ↦ ?_⟩
  obtain ⟨⟨hlw, hlh⟩, hpw, hph⟩ := hs.inRange
  have hl := scale.logical_pos
  have hp := scale.physical_pos
  refine ⟨⟨hl, hp⟩, ?_, ?_, fun _ _ hv ↦ ⟨scale.x_mono hv, scale.y_mono hv⟩,
    fun _ _ ↦ scale.mapRect_encloses, ?_⟩
  · intro v hv
    exact ⟨along?_eq_some hp.1 hpw.2 hl.1 hv, along?_eq_some hp.2 hph.2 hl.2 hv⟩
  · intro v
    exact ⟨along_eq_floor hl.1, along_eq_floor hl.2⟩
  · intro rect hcolumns hrows hfirst hlast image
    have hwidth : _ → rect.right - rect.left ≤ image.right - image.left := fun hle ↦
      sub_le_along hl.1 hlast.1 hfirst.1 hle hcolumns
    have hheight : _ → rect.bottom - rect.top ≤ image.bottom - image.top := fun hle ↦
      sub_le_along hl.2 hlast.2 hfirst.2 hle hrows
    refine ⟨(carries_along hl.1 hlast.1 hfirst.1).near_scaled hl.1,
      (carries_along hl.2 hlast.2 hfirst.2).near_scaled hl.2, hwidth, hheight, ?_⟩
    intro henlarges hpixels
    have hwider := hwidth henlarges.1
    have hhigher := hheight henlarges.2
    rw [Rect.isEmpty_iff] at hpixels ⊢
    omega

theorem scaling_rounds_down_below_zero :
    let wide : Resolution := ⟨3, 3⟩
    let wider : Resolution := ⟨4, 4⟩
    let rect : Rect := ⟨-2, 1, 2, 2⟩
    ∃ stretched, new wide wider = .ok stretched ∧
      let scale := combine stretched .identity
      along? 63 4 3 (-2) = some (-3) ∧ scale.x 2000000000 ≤ scale.x Coordinate.greatest ∧
      scale.mapRect rect = ⟨-3, 1, 2, 2⟩ ∧
      (scale.mapRect ⟨-2, 0, 5, 2⟩).Encloses (scale.mapRect rect) ∧
      |((2 - -3 : Int) - (2 - -2 : Int) * (4 : Int) / (3 : Int) : ℚ)| < 1 ∧
      (2 - -2 : Int) ≤ 2 - -3 ∧ ¬ (scale.mapRect rect).IsEmpty := by
  intro wide wider rect
  obtain ⟨hnew, hscales⟩ := scaling_rounds_down
  obtain ⟨stretched, hstretched⟩ := (hnew wide wider).mpr (by decide)
  refine ⟨stretched, hstretched, ?_⟩
  intro scale
  have hobtained : scale.Obtained :=
    .combine (.new (by decide) (by decide) hstretched) .identity
  cases hstretched
  obtain ⟨-, hwords, -, hordered, hencloses, hdistances⟩ := hscales scale hobtained
  obtain ⟨hnear, -, hwider, -, hpixels⟩ :=
    hdistances rect (by decide) (by decide) (by decide) (by decide)
  exact ⟨(hwords (-2) (by decide)).1, (hordered _ _ (by decide)).1, by decide,
    hencloses _ _ (by decide), hnear, hwider (by decide), hpixels (by decide) (by decide)⟩

end Scale

end ScreenCapture

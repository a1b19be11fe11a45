import ScreenCapture.Proofs.BitmapFile
import ScreenCapture.Proofs.Selection
import ScreenCapture.Proofs.Width

namespace ScreenCapture

open Width

namespace Bitmap

variable {width height depth : Nat}

theorem isLeast_rowStride (width depth : Nat) :
    IsLeast {size | 4 ∣ size ∧ width * depth ≤ 8 * size} (rowStride width depth) := by
  unfold rowStride
  refine ⟨⟨Nat.dvd_mul_left _ _, by omega⟩, fun size ⟨hgroups, hbits⟩ ↦ ?_⟩
  omega

/-- The groups of 32 bits that a row fills or begins, in bytes. -/
def exactStride (width depth : Nat) : Nat := 4 * (width * depth ⌈/⌉ 32)

theorem rowStride_eq (width depth : Nat) : rowStride width depth = exactStride width depth := by
  rw [rowStride, exactStride, Nat.ceilDiv_eq_add_pred_div, Nat.mul_comm]
  rfl

theorem headerSize_eq (hd : WholeBytes depth) :
    headerSize depth = 54 + if depth = 8 then 1024 else 0 := by
  obtain ⟨hpos, hwhole⟩ := hd
  rw [headerSize, paletteEntries]
  by_cases he : depth = 8
  · subst he
    rfl
  · rw [if_neg (by omega), if_neg he]
    rfl

/-- The bytes of a file: two headers, a table of 256 colours or none, and the rows. -/
def exactSize (width height depth : Nat) : Nat :=
  54 + (if depth = 8 then 1024 else 0) + exactStride width depth * height

theorem fileSize_eq (hd : WholeBytes depth) :
    fileSize width height depth = exactSize width height depth := by
  rw [fileSize, headerSize_eq hd, rowStride_eq, exactSize]

/-- There are no pixels, or they do not fill whole bytes. -/
def Invalid (width height depth : Nat) : Prop :=
  width = 0 ∨ height = 0 ∨ depth = 0 ∨ depth % 8 ≠ 0

instance (width height depth : Nat) : Decidable (Invalid width height depth) :=
  inferInstanceAs (Decidable (_ ∨ _))

theorem not_invalid_iff :
    ¬ Invalid width height depth ↔ (0 < width ∧ 0 < height) ∧ WholeBytes depth := by
  simp only [Invalid, WholeBytes]
  omega

structure Sizes where
  rowStride : Int
  headerSize : Int
  frameSize : Int

section

variable (bits : Nat)

def rowStride? (width depth : Nat) : Option Int := do
  let size ← mul? bits width depth
  mul? bits (← ceilDiv? bits size 32) 4

def headerSize? (depth : Nat) : Option Int := do
  let fixed ← add? bits fileHeaderSize infoHeaderSize
  let entries ← hold? bits (paletteEntries depth)
  add? bits fixed (← mul? bits entries paletteEntrySize)

def checked : Option Int → ExceptT CaptureError Option Int
  | some size => return size
  | none => throw .bufferOverflow

/-- The sizes of a layout or its failure, if no step overflows that is not checked. -/
def sizes? (width height depth : Nat) : ExceptT CaptureError Option Sizes := do
  if Invalid width height depth then
    throw (.invalidConfig (.bitmap width height depth))
  if 0x7fffffff < width ∨ 0x7fffffff < height then
    throw .bufferOverflow
  let rowStride ← rowStride? bits width depth
  let frameSize ← checked (mul? bits rowStride height)
  let headerSize ← headerSize? bits depth
  let fileSize ← checked (add? bits headerSize frameSize)
  if 0xffffffff < fileSize then
    throw .bufferOverflow
  return { rowStride, headerSize, frameSize }

end

section

variable {next : Int → ExceptT CaptureError Option Sizes} {size : Int}

theorem lift_some_bind : (liftM (some size) >>= next) = next size := rfl

theorem checked_some_bind : (checked (some size) >>= next) = next size := rfl

theorem checked_none_bind : (checked none >>= next) = throw .bufferOverflow := rfl

end

theorem rowStride?_eq_some (hsize : width * depth < 2 ^ 48) :
    rowStride? 64 width depth = some (rowStride width depth : Int) := by
  have hbits : mul? 64 width depth = some ((width * depth : Nat) : Int) :=
    hold?_natCast (hsize.trans (by decide))
  have hgroups : ceilDiv? 64 (width * depth : Nat) 32 = some ((width * depth ⌈/⌉ 32 : Nat) : Int) :=
    ceilDiv?_natCast (by decide) (hsize.trans (by decide))
  have hstride : (width * depth ⌈/⌉ 32) * 4 < 2 ^ 64 := by
    rw [Nat.ceilDiv_eq_add_pred_div]
    omega
  simp only [rowStride?, hbits, hgroups, Option.bind_eq_bind, Option.bind_some]
  rw [rowStride_eq, exactStride, Nat.mul_comm 4]
  exact hold?_natCast hstride

theorem headerSize?_eq_some (depth : Nat) :
    headerSize? 64 depth = some (headerSize depth : Int) := by
  have hentries : paletteEntries depth ≤ 256 := by
    unfold paletteEntries
    split
    · next hd => exact Nat.pow_le_pow_right Nat.two_pos hd
    · exact Nat.zero_le _
  have htable : paletteEntries depth * paletteEntrySize ≤ 1024 :=
    Nat.mul_le_mul_right _ hentries
  have hheld : hold? 64 (paletteEntries depth) = some (paletteEntries depth : Int) :=
    hold?_natCast (by omega)
  have hmul : mul? 64 (paletteEntries depth) paletteEntrySize =
      some ((paletteEntries depth * paletteEntrySize : Nat) : Int) :=
    hold?_natCast (by omega)
  have hfixed : add? 64 fileHeaderSize infoHeaderSize = some ((54 : Nat) : Int) := rfl
  simp only [headerSize?, hheld, hmul, hfixed, Option.bind_eq_bind, Option.bind_some]
  exact hold?_natCast (by omega)

end Bitmap

open Bitmap

namespace BitmapLayout

variable {width height depth : Nat}

theorem new_of_invalid (hv : Invalid width height depth) :
    new width height depth = .error (.invalidConfig (.bitmap width height depth)) :=
  dif_neg fun hvalid ↦ not_invalid_iff.mpr hvalid hv

section

variable (hv : ¬ Invalid width height depth)
include hv

theorem new_of_fits (hw : width ≤ 0x7fffffff ∧ height ≤ 0x7fffffff)
    (hf : Bitmap.fileSize width height depth ≤ 0xffffffff) :
    ∃ layout, new width height depth = .ok layout := by
  rw [new, dif_pos (not_invalid_iff.mp hv), dif_pos ⟨hw, hf⟩]
  exact ⟨_, rfl⟩

theorem new_of_large (hl : ¬ ((width ≤ 0x7fffffff ∧ height ≤ 0x7fffffff) ∧
    Bitmap.fileSize width height depth ≤ 0xffffffff)) :
    new width height depth = .error .bufferOverflow := by
  rw [new, dif_pos (not_invalid_iff.mp hv), dif_neg hl]

theorem exists_new_iff : (∃ layout, new width height depth = .ok layout) ↔
    (width ≤ 0x7fffffff ∧ height ≤ 0x7fffffff) ∧ exactSize width height depth ≤ 0xffffffff := by
  rw [← fileSize_eq (not_invalid_iff.mp hv).2]
  constructor
  · rintro ⟨layout, hnew⟩
    by_contra hl
    rw [new_of_large hv hl] at hnew
    cases hnew
  · rintro ⟨hw, hf⟩
    exact new_of_fits hv hw hf

theorem new_eq_bufferOverflow (hn : ¬ ∃ layout, new width height depth = .ok layout) :
    new width height depth = .error .bufferOverflow :=
  new_of_large hv fun ⟨hw, hf⟩ ↦ hn (new_of_fits hv hw hf)

end

theorem exists_invalidConfig_iff :
    (∃ fault, new width height depth = .error (.invalidConfig fault)) ↔
      Invalid width height depth := by
  constructor
  · rintro ⟨fault, hnew⟩
    by_contra hv
    have hn : ¬ ∃ layout, new width height depth = .ok layout := by
      rw [hnew]
      nofun
    rw [new_eq_bufferOverflow hv hn] at hnew
    cases hnew
  · intro hv
    exact ⟨_, new_of_invalid hv⟩

theorem sizes_of_new {layout : BitmapLayout} (hnew : new width height depth = .ok layout) :
    layout.rowStride = exactStride width depth ∧
      layout.headerSize = 54 + (if depth = 8 then 1024 else 0) ∧
      layout.paletteSize = (if depth = 8 then 1024 else 0) ∧
      layout.frameSize = exactStride width depth * height ∧
      layout.fileSize = exactSize width height depth := by
  obtain ⟨rfl, rfl, rfl⟩ := of_new hnew
  have hstride := Bitmap.rowStride_eq layout.width layout.depth
  have hheader : layout.headerSize = _ := Bitmap.headerSize_eq layout.wholeBytes
  have hpalette : layout.headerSize = 54 + layout.paletteSize := headerSize_eq layout
  exact ⟨hstride, hheader, Nat.add_left_cancel (hpalette.symm.trans hheader),
    congrArg (· * layout.height) hstride, fileSize_eq layout.wholeBytes⟩

def sizes (layout : BitmapLayout) : Sizes :=
  ⟨layout.rowStride, layout.headerSize, layout.frameSize⟩

theorem sizes?_eq_some (hw : width < 2 ^ 32) (hd : depth < 2 ^ 16) :
    sizes? 64 width height depth = some ((new width height depth).map sizes) := by
  unfold sizes?
  by_cases hv : Invalid width height depth
  · rw [if_pos hv, new_of_invalid hv]
    rfl
  rw [if_neg hv]
  by_cases hlarge : 0x7fffffff < width ∨ 0x7fffffff < height
  · rw [if_pos hlarge, new_of_large hv (by omega)]
    rfl
  rw [if_neg hlarge]
  have hrow : width * depth < 2 ^ 48 := (Nat.mul_lt_mul'' hw hd).trans_eq rfl
  have hfile : Bitmap.fileSize width height depth =
      Bitmap.headerSize depth + Bitmap.rowStride width depth * height := rfl
  rw [rowStride?_eq_some hrow, lift_some_bind, mul?_natCast]
  -- what a word cannot hold is too large for a file in any case
  rcases Nat.lt_or_ge (Bitmap.rowStride width depth * height) (2 ^ 64) with hframe | hframe
  · rw [hold?_natCast hframe, checked_some_bind, headerSize?_eq_some, lift_some_bind, add?_natCast,
      ← hfile]
    rcases Nat.lt_or_ge (Bitmap.fileSize width height depth) (2 ^ 64) with hfits | hfits
    · rw [hold?_natCast hfits, checked_some_bind]
      by_cases hl : Bitmap.fileSize width height depth ≤ 0xffffffff
      · obtain ⟨layout, hnew⟩ := new_of_fits hv (by omega) hl
        rw [hnew, if_neg (by omega)]
        obtain ⟨rfl, rfl, rfl⟩ := of_new hnew
        rfl
      · rw [new_of_large hv (by omega), if_pos (by omega)]
        rfl
    · rw [hold?_natCast_eq_none hfits, checked_none_bind, new_of_large hv (by omega)]
      rfl
  · rw [hold?_natCast_eq_none hframe, checked_none_bind, new_of_large hv (by omega)]
    rfl

theorem not_invalid_of_select {request : CaptureRequest} {area rect : Rect}
    (hs : request.select area depth = .ok rect) :
    ¬ Invalid rect.width.toNat rect.height.toNat depth ∧
      rect.width.toNat ≤ 0x7fffffff ∧ rect.height.toNat ≤ 0x7fffffff := by
  obtain ⟨-, -, hpixels, hwhole⟩ := CaptureRequest.select_eq_ok_iff.mp hs
  have hwidth := rect.width_le
  have hheight := rect.height_le
  rw [Coordinate.greatest] at hwidth hheight
  rw [Rect.IsEmpty] at hpixels
  exact ⟨not_invalid_iff.mpr ⟨by omega, hwhole⟩, by omega, by omega⟩

/-- A bitmap without pixels, or with pixels that are not whole bytes, is invalid. Any other one has
a layout exactly if the headers can hold its dimensions and its exact size, which is then the size
that the layout tells; in words of 64 bits nothing overflows on the way to it but what is checked.
So the layout of a rectangle that was selected fails for the size of its file only. -/
theorem layouts_are_those_that_fit :
    (∀ (width height : UInt32) (depth : UInt16),
      let w := width.toNat
      let h := height.toNat
      let d := depth.toNat
      let answer := new w h d
      IsLeast {size | 4 ∣ size ∧ w * d ≤ 8 * size} (Bitmap.rowStride w d) ∧
      ((∃ fault, answer = .error (.invalidConfig fault)) ↔ Invalid w h d) ∧
      (¬ Invalid w h d → ((∃ layout, answer = .ok layout) ↔
        (w ≤ 0x7fffffff ∧ h ≤ 0x7fffffff) ∧ exactSize w h d ≤ 0xffffffff)) ∧
      (¬ Invalid w h d → (¬ ∃ layout, answer = .ok layout) → answer = .error .bufferOverflow) ∧
      (∀ layout, answer = .ok layout →
        (layout.width = w ∧ layout.height = h ∧ layout.depth = d) ∧
        layout.rowStride = exactStride w d ∧
        layout.headerSize = 54 + (if d = 8 then 1024 else 0) ∧
        layout.paletteSize = (if d = 8 then 1024 else 0) ∧
        layout.frameSize = exactStride w d * h ∧ layout.fileSize = exactSize w h d) ∧
      sizes? 64 w h d = some (answer.map sizes)) ∧
    ∀ (request : CaptureRequest) (area rect : Rect) (depth : UInt16),
      request.select area depth.toNat = .ok rect →
        (0 < rect.width ∧ rect.width ≤ 0x7fffffff) ∧
        (0 < rect.height ∧ rect.height ≤ 0x7fffffff) ∧
        ∀ error, new rect.width.toNat rect.height.toNat depth.toNat = .error error ↔
          error = .bufferOverflow ∧
            0xffffffff < exactSize rect.width.toNat rect.height.toNat depth.toNat := by
  constructor
  · intro width height depth w h d answer
    refine ⟨isLeast_rowStride w d, exists_invalidConfig_iff, exists_new_iff,
      new_eq_bufferOverflow, ?_, sizes?_eq_some width.toNat_lt depth.toNat_lt⟩
    intro layout hnew
    exact ⟨of_new hnew, sizes_of_new hnew⟩
  · intro request area rect depth hs
    obtain ⟨hv, hw⟩ := not_invalid_of_select hs
    have hpixels := (not_invalid_iff.mp hv).1
    refine ⟨by omega, by omega, fun error ↦ ?_⟩
    have hiff := exists_new_iff hv
    by_cases hn : ∃ layout, new rect.width.toNat rect.height.toNat depth.toNat = .ok layout
    · have hfits := (hiff.mp hn).2
      obtain ⟨layout, hnew⟩ := hn
      rw [hnew]
      constructor
      · nofun
      · rintro ⟨-, hlarge⟩
        omega
    · have hlarge := mt hiff.mpr hn
      rw [new_eq_bufferOverflow hv hn, Except.error.injEq, eq_comm]
      constructor
      · intro he
        exact ⟨he, by omega⟩
      · exact And.left

theorem layouts_are_those_that_fit_widest :
    let area : Rect := ⟨-0x80000000, 0, 0x7fffffff, 1⟩
    (∃ layout, new 0x7fffffff 1 8 = .ok layout ∧ layout.fileSize = 54 + 1024 + 0x80000000) ∧
      new 0x7fffffff 0x7fffffff 65528 = .error .bufferOverflow ∧
      CaptureRequest.wholeArea.select area 16 = .ok area ∧
      new area.width.toNat area.height.toNat 16 = .error .bufferOverflow := by
  intro area
  obtain ⟨hsizes, hselected⟩ := layouts_are_those_that_fit
  obtain ⟨-, -, hfits, -, htold, -⟩ := hsizes 0x7fffffff 1 8
  obtain ⟨-, -, hfits', hlarge, -, -⟩ := hsizes 0x7fffffff 0x7fffffff 65528
  obtain ⟨layout, hnew⟩ := (hfits (by decide)).mpr ⟨by decide, by decide⟩
  obtain ⟨-, -, -, -, -, hfile⟩ := htold layout hnew
  have hrect : CaptureRequest.wholeArea.select area 16 = .ok area := rfl
  obtain ⟨-, -, herror⟩ := hselected .wholeArea area area 16 hrect
  refine ⟨⟨layout, hnew, hfile⟩, hlarge (by decide) fun hn ↦ ?_, hrect,
    (herror _).mpr ⟨rfl, by decide⟩⟩
  have hsize := ((hfits' (by decide)).mp hn).2
  exact absurd hsize (by decide)

end BitmapLayout

end ScreenCapture

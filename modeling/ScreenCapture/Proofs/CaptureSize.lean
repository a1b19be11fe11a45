import ScreenCapture.Clock.Manual
import ScreenCapture.Display.InMemory
import ScreenCapture.Display.Scripted
import ScreenCapture.Proofs.BitmapFile
import ScreenCapture.Proofs.Opening

namespace ScreenCapture

variable {ω : Type} {h : Host ω}

theorem Rect.width_eq_min {r : Rect} (hr : r.left < r.right) :
    r.width = min (r.right - r.left) Coordinate.greatest := by
  simp only [width, Coordinate.saturate, clamp, Coordinate.least, Coordinate.greatest]
  omega

theorem Rect.height_eq_min {r : Rect} (hr : r.top < r.bottom) :
    r.height = min (r.bottom - r.top) Coordinate.greatest := by
  simp only [height, Coordinate.saturate, clamp, Coordinate.least, Coordinate.greatest]
  omega

namespace BitmapLayout

variable (layout : BitmapLayout)

theorem eight_le_depth : 8 ≤ layout.depth := by
  obtain ⟨hpos, hwhole⟩ := layout.wholeBytes
  omega

theorem four_le_rowStride : 4 ≤ layout.rowStride := by
  have hbits : 1 * 8 ≤ layout.width * layout.depth :=
    Nat.mul_le_mul layout.width_pos layout.eight_le_depth
  unfold rowStride Bitmap.rowStride
  omega

theorem frameSize_lt : layout.frameSize < 0x100000000 :=
  Nat.lt_of_le_of_lt (Nat.le_trans (Nat.le_add_left _ _) layout.fileSize_le) (by decide)

theorem height_lt : layout.height < 0x40000000 := by
  have hrows : 4 * layout.height ≤ layout.frameSize :=
    Nat.mul_le_mul_right _ layout.four_le_rowStride
  have hsize := layout.frameSize_lt
  omega

theorem of_widest (hw : layout.width = 0x7fffffff) : layout.depth = 8 ∧ layout.height = 1 := by
  have hsize := layout.frameSize_lt
  have hrow : 1 * layout.rowStride ≤ layout.frameSize := by
    rw [frameSize, Nat.mul_comm layout.rowStride]
    exact Nat.mul_le_mul_right _ layout.height_pos
  have hstride : layout.rowStride = (0x7fffffff * layout.depth + 31) / 32 * 4 := by
    rw [rowStride, Bitmap.rowStride, hw]
  obtain ⟨hpos, hwhole⟩ := layout.wholeBytes
  have hdepth : layout.depth = 8 := by omega
  refine ⟨hdepth, ?_⟩
  by_contra hheight
  have hrows : layout.rowStride * 2 ≤ layout.frameSize :=
    Nat.mul_le_mul_left _ (by have := layout.height_pos; omega)
  rw [hdepth] at hstride
  omega

end BitmapLayout

namespace CaptureRequest

variable {request : CaptureRequest} {area rect : Rect} {depth : Nat}

/-- The rectangle that is asked for, wherever it may end. -/
def wanted (request : CaptureRequest) : Rect :=
  ⟨request.offsetX, request.offsetY, request.offsetX + request.width,
    request.offsetY + request.height⟩

theorem eq_of_select (hwhole : ¬ request.IsWholeArea) (hx : Coordinate.InRange request.offsetX)
    (hy : Coordinate.InRange request.offsetY) (hs : request.select area depth = .ok rect) :
    rect = ⟨request.offsetX, request.offsetY, min request.wanted.right Coordinate.greatest,
      min request.wanted.bottom Coordinate.greatest⟩ ∧
    (request.width ≤ Coordinate.greatest ∧ request.height ≤ Coordinate.greatest) := by
  obtain ⟨hclip, -⟩ := select_eq_ok_iff.mp hs
  obtain ⟨hsize, rfl⟩ := (clip_eq_ok_iff hwhole).mp hclip
  simp only [Coordinate.InRange, Coordinate.least, Coordinate.greatest] at hx hy
  refine ⟨?_, hsize⟩
  simp only [Rect.ofOriginSize, wanted, Coordinate.saturate, clamp, Coordinate.least,
    Coordinate.greatest, Rect.mk.injEq, true_and]
  omega

theorem wanted_of_select (hwhole : ¬ request.IsWholeArea) (hx : Coordinate.InRange request.offsetX)
    (hy : Coordinate.InRange request.offsetY) (harea : area.InRange)
    (hs : request.select area depth = .ok rect) :
    (rect = request.wanted ↔ request.wanted.InRange) ∧
      (area.Encloses request.wanted ↔ request.wanted.InRange) := by
  obtain ⟨-, hencloses, -⟩ := select_eq_ok_iff.mp hs
  obtain ⟨rfl, -⟩ := eq_of_select hwhole hx hy hs
  simp only [Rect.InRange, Coordinate.InRange, Coordinate.least, Coordinate.greatest] at hx hy harea
  simp only [Rect.Encloses, wanted, Coordinate.greatest] at hencloses
  simp only [Rect.Encloses, Rect.InRange, Coordinate.InRange, wanted, Coordinate.least,
    Coordinate.greatest, Rect.mk.injEq, true_and]
  omega

end CaptureRequest

theorem CaptureOptions.isWholeArea_request {options : CaptureOptions} {sides : VideoSize.Sides}
    (hs : options.videoSize = some sides) :
    options.request.IsWholeArea ↔ ¬ (0 < sides.width ∧ 0 < sides.height) := by
  simp only [CaptureRequest.IsWholeArea, request, hs, Option.elim_some, UInt32.lt_iff_toNat_lt,
    UInt32.toNat_zero]
  omega

namespace Session

/-- The bitmaps have the size of the rectangle that was selected from an area. -/
structure Measured (options : CaptureOptions) (session : Session) : Prop where
  selected : session.target.SelectedBy options.request session.layout.depth
  width_eq : session.layout.width = session.target.captureRect.width.toNat
  height_eq : session.layout.height = session.target.captureRect.height.toNat
  stream_eq : session.stream = .of session.layout options.frameRate

theorem start_measured (options : CaptureOptions) (target : CaptureTarget) :
    Answers (start h options target) (Measured options) := by
  refine start_answers_of fun topology resolved layout depth hselected hnew ↦ ?_
  obtain ⟨hwidth, hheight, rfl⟩ := BitmapLayout.of_new hnew
  refine .bind (.any _) fun overlay _ ↦ .bind (.any _) fun now _ ↦ .bind (.any _) fun _ _ ↦ ?_
  exact .pure ⟨hselected, hwidth, hheight, rfl⟩

namespace Measured

variable {options : CaptureOptions} {session : Session} (hm : Measured options session)
include hm

theorem lt_rect : session.target.captureRect.left < session.target.captureRect.right ∧
    session.target.captureRect.top < session.target.captureRect.bottom :=
  Rect.lt_of_not_isEmpty hm.selected.fits.not_isEmpty

theorem rows_eq : session.target.captureRect.bottom - session.target.captureRect.top =
    session.layout.height := by
  have hheight := hm.height_eq
  rw [Rect.height_eq_min hm.lt_rect.2, Coordinate.greatest] at hheight
  -- a bitmap has fewer rows than there are coordinates, so the height was not cut off
  have hlow := session.layout.height_lt
  have hdown := hm.lt_rect.2
  omega

theorem columns_eq : (session.layout.width : Int) =
    min (session.target.captureRect.right - session.target.captureRect.left)
      Coordinate.greatest := by
  have hwidth := hm.width_eq
  rw [Rect.width_eq_min hm.lt_rect.1, Coordinate.greatest] at hwidth
  rw [Coordinate.greatest]
  have hacross := hm.lt_rect.1
  omega

theorem rect_eq (hwhole : ¬ options.request.IsWholeArea) :
    session.target.captureRect = ⟨options.offsetX.toInt, options.offsetY.toInt,
      min options.request.wanted.right Coordinate.greatest,
      min options.request.wanted.bottom Coordinate.greatest⟩ ∧
    options.request.width ≤ Coordinate.greatest := by
  obtain ⟨hrect, hwidth, -⟩ := CaptureRequest.eq_of_select hwhole (Coordinate.inRange_int32 _)
    (Coordinate.inRange_int32 _) hm.selected.select_eq
  exact ⟨hrect, hwidth⟩

theorem wanted_iff (hwhole : ¬ options.request.IsWholeArea) :
    (session.target.captureRect = options.request.wanted ↔ options.request.wanted.InRange) ∧
      (session.target.area.Encloses options.request.wanted ↔ options.request.wanted.InRange) :=
  CaptureRequest.wanted_of_select hwhole (Coordinate.inRange_int32 _) (Coordinate.inRange_int32 _)
    hm.selected.area_inRange hm.selected.select_eq

end Measured

/-- The stream of a session has the size of the rectangle that is captured. Only where all of an area
is captured that is wider than the greatest coordinate, its width is cut off there; such an area
has a single row of single bytes. Where a size is asked for, the rectangle has that size and its
place, and it lies in the area, unless it was to end beyond the coordinates: then it is cut off
where they end. -/
theorem stream_has_size_asked_for (h : Host ω) (options : CaptureOptions) (target : CaptureTarget)
    (w w₀ : ω) (session : Session) (hstart : start h options target w = (.ok session, w₀)) :
    let rect := session.target.captureRect
    let area := session.target.area
    let layout := session.layout
    (session.stream.width = layout.width ∧ session.stream.height = layout.height) ∧
    rect.bottom - rect.top = layout.height ∧
    (rect.right - rect.left = layout.width ∨
      options.request.IsWholeArea ∧ layout.depth = 8 ∧ layout.height = 1 ∧
        layout.width = Coordinate.greatest ∧ Coordinate.greatest < rect.right - rect.left) ∧
    ∀ sides, options.videoSize = some sides → 0 < sides.width → 0 < sides.height →
      let wanted : Rect := ⟨options.offsetX.toInt, options.offsetY.toInt,
        options.offsetX.toInt + sides.width.toNat, options.offsetY.toInt + sides.height.toNat⟩
      (wanted.InRange → rect = wanted ∧ area.Encloses wanted ∧
        layout.width = sides.width.toNat ∧ layout.height = sides.height.toNat) ∧
      (¬ wanted.InRange → ¬ area.Encloses wanted ∧ rect =
        ⟨wanted.left, wanted.top, min wanted.right Coordinate.greatest,
          min wanted.bottom Coordinate.greatest⟩) := by
  intro rect area layout
  have hm : Measured options session := start_measured options target w session (by rw [hstart])
  have hrows : rect.bottom - rect.top = layout.height := hm.rows_eq
  have hcolumns : (layout.width : Int) = min (rect.right - rect.left) Coordinate.greatest :=
    hm.columns_eq
  refine ⟨by rw [hm.stream_eq]; exact ⟨rfl, rfl⟩, hrows, ?_, fun sides hs hw hh ↦ ?_⟩
  · rcases Int.lt_or_le Coordinate.greatest (rect.right - rect.left) with hwide | hfits
    · have hwidest : (layout.width : Int) = Coordinate.greatest := by omega
      obtain ⟨hdepth, hheight⟩ := layout.of_widest (Int.natCast_inj.mp hwidest)
      refine .inr ⟨?_, hdepth, hheight, hwidest, hwide⟩
      -- a width that was asked for is a coordinate itself
      by_contra hwhole
      obtain ⟨hrect, hwidth⟩ := hm.rect_eq hwhole
      have hright : rect.right - rect.left ≤ options.request.width := by
        simp only [rect, hrect, CaptureRequest.wanted, CaptureOptions.request]
        omega
      omega
    · exact .inl (by omega)
  · intro wanted
    have hwhole : ¬ options.request.IsWholeArea :=
      mt (CaptureOptions.isWholeArea_request hs).mp (not_not_intro ⟨hw, hh⟩)
    have hwanted : options.request.wanted = wanted := by
      simp only [CaptureRequest.wanted, CaptureOptions.request, hs, Option.elim_some, wanted]
    obtain ⟨hrect, harea⟩ := hm.wanted_iff hwhole
    have hcut := (hm.rect_eq hwhole).1
    rw [hwanted] at hrect harea hcut
    refine ⟨fun hrange ↦ ?_, fun hrange ↦ ⟨mt harea.mp hrange, hcut⟩⟩
    have heq : rect = wanted := hrect.mpr hrange
    have hwidth : (sides.width.toNat : Int) ≤ Coordinate.greatest := by
      simpa only [CaptureOptions.request, hs, Option.elim_some] using (hm.rect_eq hwhole).2
    rw [heq] at hrows hcolumns
    simp only [wanted] at hrows hcolumns
    exact ⟨heq, harea.mpr hrange, by omega, by omega⟩

theorem stream_has_size_asked_for_twoByTwo :
    let h := Host.assemble .inMemory .manual
    let options := { CaptureOptions.standard with videoSize := some ⟨1, 2⟩, offsetX := 1 }
    ∃ session w₀, start h options .desktop ⟨.twoByTwo, .startingAt 0⟩ = (.ok session, w₀) ∧
      session.target.captureRect = ⟨1, 0, 2, 2⟩ ∧
      session.stream.width = 1 ∧ session.stream.height = 2 := by
  intro h options
  obtain ⟨session, w₀, hstart, -⟩ := exists_started (h := h) options .desktop
    ⟨.twoByTwo, .startingAt 0⟩ (a := ()) (f := fun _ _ ↦ ()) (by decide +kernel)
  obtain ⟨⟨hwidth, hheight⟩, -, -, hasked⟩ :=
    stream_has_size_asked_for h options .desktop _ w₀ session hstart
  obtain ⟨hrect, -, hwidth', hheight'⟩ := (hasked _ rfl (by decide) (by decide)).1 (by decide)
  exact ⟨session, w₀, hstart, hrect, hwidth.trans hwidth', hheight.trans hheight'⟩

def outermostDisplay : ScriptedDisplay where
  monitors := [(⟨2147483637, 0, 2147483647, 10⟩, ⟨10, 10⟩, ⟨10, 10⟩)]
  virtualScreen := ⟨2147483637, 0, 2147483647, 10⟩
  windows := []
  depth := 32
  deviceScale := ⟨⟨10, 10⟩, ⟨10, 10⟩, by decide, by decide⟩
  faults := []
  pointer := ⟨false, ⟨0, 0⟩, ⟨0, 0⟩⟩
  excess := 0
  surface := none
  blits := 0

/-- A request for twice as much as there is opens, and captures half of what was asked for. -/
theorem overhanging_request_opens :
    let h := Host.assemble .scripted .manual
    let options := { CaptureOptions.standard with
      videoSize := some ⟨20, 10⟩, offsetX := 2147483637 }
    ∃ session w₀,
      start h options .desktop ⟨outermostDisplay, .startingAt 1000000⟩ = (.ok session, w₀) ∧
      ¬ session.target.area.Encloses ⟨2147483637, 0, 2147483637 + 20, 0 + 10⟩ ∧
      session.target.captureRect ≠ ⟨2147483637, 0, 2147483637 + 20, 0 + 10⟩ ∧
      session.stream.width = 10 := by
  intro h options
  obtain ⟨session, w₀, hstart, heval⟩ := exists_started (h := h) options .desktop
    ⟨outermostDisplay, .startingAt 1000000⟩
    (a := (⟨2147483637, 0, 2147483647, 10⟩, ⟨2147483637, 0, 2147483647, 10⟩, 10))
    (f := fun session _ ↦
      (session.target.area, session.target.captureRect, session.stream.width)) (by decide +kernel)
  simp only [Prod.mk.injEq] at heval
  obtain ⟨harea, hrect, hwidth⟩ := heval
  refine ⟨session, w₀, hstart, ?_, ?_, hwidth⟩
  · rw [harea]
    decide
  · rw [hrect]
    decide

end Session

end ScreenCapture

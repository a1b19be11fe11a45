import ScreenCapture.Bitmap
import ScreenCapture.Bytes
import Mathlib.Tactic.Ring

namespace ScreenCapture

namespace Bitmap

def ofLittleEndian : List UInt8 → Nat
  | [] => 0
  | byte :: bytes => byte.toNat + 256 * ofLittleEndian bytes

theorem length_littleEndian (width n : Nat) : (littleEndian width n).length = width := by
  induction width generalizing n with
  | zero => rfl
  | succ width ih => rw [littleEndian, List.length_cons, ih]

theorem ofLittleEndian_littleEndian {width n : Nat} (hn : n < 256 ^ width) :
    ofLittleEndian (littleEndian width n) = n := by
  induction width generalizing n with
  | zero =>
    have hzero : n = 0 := by simpa using hn
    rw [hzero]
    rfl
  | succ width ih =>
    have hhigh : n / 256 < 256 ^ width :=
      Nat.div_lt_of_lt_mul (by rwa [Nat.pow_succ, Nat.mul_comm] at hn)
    rw [littleEndian, ofLittleEndian, ih hhigh, UInt8.toNat_ofNat']
    exact Nat.mod_add_div n 256

abbrev Reader := StateT (List UInt8) Option

namespace Reader

def take (n : Nat) : Reader (List UInt8) := fun bytes ↦
  if n ≤ bytes.length then some (bytes.take n, bytes.drop n) else none

def natural (width : Nat) : Reader Nat := do return ofLittleEndian (← take width)

def signed : Reader Int := do return (ofLittleEndian (← take 4) : Int).bmod 0x100000000

variable {α β : Type}

theorem bind_of_read {reader : Reader α} {bytes rest : List UInt8} {a : α}
    (hr : reader bytes = some (a, rest)) (next : α → Reader β) :
    (reader >>= next) bytes = next a rest := by
  simp [bind, StateT.bind, hr]

theorem take_append {n : Nat} {bytes : List UInt8} (hn : bytes.length = n) (rest : List UInt8) :
    take n (bytes ++ rest) = some (bytes, rest) := by
  subst hn
  simp [take]

theorem natural_littleEndian {width n : Nat} (hn : n < 256 ^ width) (rest : List UInt8) :
    natural width (littleEndian width n ++ rest) = some (n, rest) := by
  rw [natural, bind_of_read (take_append (length_littleEndian width n) rest),
    ofLittleEndian_littleEndian hn]
  rfl

theorem signed_signedField {v : Int} (hlow : -0x80000000 ≤ v) (hhigh : v < 0x80000000)
    (rest : List UInt8) : signed (signedField v ++ rest) = some (v, rest) := by
  have hfield : (v % 0x100000000).toNat < 256 ^ 4 := by omega
  have hread : ((v % 0x100000000).toNat : Int).bmod 0x100000000 = v := by
    rw [Int.toNat_of_nonneg (Int.emod_nonneg v (by decide))]
    refine (Int.emod_bmod (x := v) (n := 0x100000000)).trans ?_
    exact Int.bmod_eq_of_le (by omega) (by omega)
  rw [signed, signedField, bind_of_read (take_append (length_littleEndian 4 _) rest),
    ofLittleEndian_littleEndian hfield, hread]
  rfl

end Reader

/-- The fields in front of a bitmap, as the format orders them. -/
structure Header where
  tag : List Char
  fileSize : Nat
  reserved : Nat × Nat
  pixelOffset : Nat
  infoSize : Nat
  width : Int
  height : Int
  planes : Nat
  depth : Nat
  compression : Nat
  imageSize : Nat
  pixelsPerMeter : Int × Int
  coloursUsed : Nat
  coloursNeeded : Nat
deriving DecidableEq

open Reader in
def Header.read : Reader Header := do
  let tag ← take 2
  let fileSize ← natural 4
  let reserved ← natural 2
  let reserved' ← natural 2
  let pixelOffset ← natural 4
  let infoSize ← natural 4
  let width ← signed
  let height ← signed
  let planes ← natural 2
  let depth ← natural 2
  let compression ← natural 4
  let imageSize ← natural 4
  let horizontal ← signed
  let vertical ← signed
  let coloursUsed ← natural 4
  let coloursNeeded ← natural 4
  return {
    tag := tag.map fun byte ↦ Char.ofNat byte.toNat
    fileSize, pixelOffset, infoSize, width, height, planes, depth, compression, imageSize
    reserved := (reserved, reserved')
    pixelsPerMeter := (horizontal, vertical)
    coloursUsed, coloursNeeded }

@[ext]
structure File where
  header : Header
  palette : ByteArray
  pixels : ByteArray

/-- The colour table stands between the headers and the place where the pixels begin. -/
def File.read? (data : ByteArray) : Option File := do
  let (header, _) ← Header.read data.data.toList
  return {
    header
    palette := data.extract (fileHeaderSize + infoHeaderSize) header.pixelOffset
    pixels := data.extract header.pixelOffset data.size }

end Bitmap

open Bitmap

namespace BitmapLayout

variable (layout : BitmapLayout)

theorem size_headers : layout.headers.size = fileHeaderSize + infoHeaderSize := by
  simp [headers, fileHeader, infoHeader, signedField, length_littleEndian, fileHeaderSize,
    infoHeaderSize]

theorem headerSize_eq : layout.headerSize = fileHeaderSize + infoHeaderSize + layout.paletteSize :=
  rfl

def header : Header where
  tag := ['B', 'M']
  fileSize := layout.fileSize
  reserved := (0, 0)
  pixelOffset := layout.headerSize
  infoSize := 40
  width := layout.width
  height := -layout.height
  planes := 1
  depth := layout.depth
  compression := 0
  imageSize := 0
  pixelsPerMeter := (0, 0)
  coloursUsed := 0
  coloursNeeded := 0

variable {layout}

open Reader in
theorem read_headers (hdepth : layout.depth < 0x10000) (rest : List UInt8) :
    Header.read (layout.headers.data.toList ++ rest) = some (layout.header, rest) := by
  have hfile : layout.fileSize < 256 ^ 4 := Nat.lt_succ_of_le layout.fileSize_le
  have hoffset : layout.headerSize < 256 ^ 4 :=
    Nat.lt_of_le_of_lt (Nat.le_add_right _ layout.frameSize) hfile
  have hwidth := layout.width_le
  have hheight := layout.height_le
  simp only [headers, fileHeader, infoHeader, List.data_toByteArray, List.append_assoc]
  unfold Header.read
  rw [bind_of_read (take_append (length_littleEndian 2 _) _),
    bind_of_read (natural_littleEndian hfile _),
    bind_of_read (natural_littleEndian (by decide) _),
    bind_of_read (natural_littleEndian (by decide) _),
    bind_of_read (natural_littleEndian hoffset _),
    bind_of_read (natural_littleEndian (by decide) _),
    bind_of_read (signed_signedField (by omega) (by omega) _),
    bind_of_read (signed_signedField (by omega) (by omega) _),
    bind_of_read (natural_littleEndian (by decide) _),
    bind_of_read (natural_littleEndian hdepth _),
    bind_of_read (natural_littleEndian (by decide) _),
    bind_of_read (natural_littleEndian (by decide) _),
    bind_of_read (signed_signedField (by decide) (by decide) _),
    bind_of_read (signed_signedField (by decide) (by decide) _),
    bind_of_read (natural_littleEndian (by decide) _),
    bind_of_read (natural_littleEndian (by decide) _)]
  rfl

def paletteFault (layout : BitmapLayout) (size : Nat) : CaptureError :=
  .platform (.message s!"palette length mismatch: got {size}, expected {layout.paletteSize}")

def pixelFault (layout : BitmapLayout) (size : Nat) : CaptureError :=
  .platform (.message (s!"pixel buffer length mismatch: got {size}, expected {layout.frameSize}" ++
    s!" for {layout.width}x{layout.height}x{layout.depth}"))

variable {palette pixels data : ByteArray}

theorem encode_of_palette_ne (hp : palette.size ≠ layout.paletteSize) :
    layout.encode palette pixels = .error (layout.paletteFault palette.size) := by
  rw [encode, if_pos hp]
  rfl

theorem encode_of_pixels_ne (hp : palette.size = layout.paletteSize)
    (hx : pixels.size ≠ layout.frameSize) :
    layout.encode palette pixels = .error (layout.pixelFault pixels.size) := by
  rw [encode, if_neg (not_not.mpr hp), if_pos hx]
  rfl

theorem encode_of_sizes (hp : palette.size = layout.paletteSize)
    (hx : pixels.size = layout.frameSize) :
    layout.encode palette pixels = .ok (layout.headers ++ palette ++ pixels) := by
  rw [encode, if_neg (not_not.mpr hp), if_neg (not_not.mpr hx)]

theorem of_encode (he : layout.encode palette pixels = .ok data) :
    palette.size = layout.paletteSize ∧ pixels.size = layout.frameSize ∧
      data = layout.headers ++ palette ++ pixels := by
  by_cases hp : palette.size = layout.paletteSize
  · by_cases hx : pixels.size = layout.frameSize
    · rw [encode_of_sizes hp hx] at he
      exact ⟨hp, hx, (Except.ok.inj he).symm⟩
    · rw [encode_of_pixels_ne hp hx] at he
      cases he
  · rw [encode_of_palette_ne hp] at he
    cases he

theorem size_append (hp : palette.size = layout.paletteSize)
    (hx : pixels.size = layout.frameSize) :
    (layout.headers ++ palette ++ pixels).size = layout.fileSize := by
  rw [ByteArray.size_append, ByteArray.size_append, size_headers, hp, hx]
  rfl

theorem size_of_encode (he : layout.encode palette pixels = .ok data) :
    data.size = layout.fileSize := by
  obtain ⟨hp, hx, rfl⟩ := of_encode he
  exact size_append hp hx

theorem extract_of_encode (he : layout.encode palette pixels = .ok data) :
    data.extract (fileHeaderSize + infoHeaderSize) layout.headerSize = palette ∧
      data.extract layout.headerSize data.size = pixels := by
  have hsize := size_of_encode he
  obtain ⟨hp, hx, rfl⟩ := of_encode he
  have hhead : (layout.headers ++ palette).size = layout.headerSize := by
    rw [ByteArray.size_append, size_headers, hp, headerSize_eq]
  constructor
  · rw [← size_headers layout, ← hhead, ByteArray.extract_append_size_left]
    exact ByteArray.extract_append_eq_right rfl ByteArray.size_append
  · exact ByteArray.extract_append_eq_right hhead.symm (by rw [hsize, hhead, hx]; rfl)

theorem read_of_encode (hdepth : layout.depth < 0x10000)
    (he : layout.encode palette pixels = .ok data) :
    File.read? data = some ⟨layout.header, palette, pixels⟩ := by
  obtain ⟨hpalette, hpixels⟩ := extract_of_encode he
  obtain ⟨-, -, hdata⟩ := of_encode he
  have hheader : Header.read data.data.toList =
      some (layout.header, (palette ++ pixels).data.toList) := by
    rw [hdata, ByteArray.append_assoc, ByteArray.data_append, Array.toList_append]
    exact read_headers hdepth _
  rw [File.read?, hheader]
  simp [header, hpalette, hpixels]

theorem of_new {width height depth : Nat} (hnew : new width height depth = .ok layout) :
    layout.width = width ∧ layout.height = height ∧ layout.depth = depth := by
  unfold new at hnew
  split at hnew
  · split at hnew
    · cases hnew
      exact ⟨rfl, rfl, rfl⟩
    · cases hnew
  · cases hnew

/-- Parts of the right lengths make a file in which a reader of the format finds each field of the
layout, with nothing cut off, the colour table behind the headers and the pixels behind it. Parts
of other lengths make none, and the colour table is looked at first. So files that are equal were
made from equal parts. -/
theorem encode_is_read_back (width height : UInt32) (depth : UInt16) (layout : BitmapLayout)
    (hnew : new width.toNat height.toNat depth.toNat = .ok layout) (palette pixels : ByteArray) :
    (palette.size = layout.paletteSize → pixels.size = layout.frameSize →
      ∃ data, layout.encode palette pixels = .ok data ∧
        File.read? data = some {
          palette, pixels
          header := {
            tag := ['B', 'M']
            fileSize := data.size
            reserved := (0, 0)
            pixelOffset := layout.headerSize
            infoSize := 40
            width := width.toNat
            height := -height.toNat
            planes := 1
            depth := depth.toNat
            compression := 0
            imageSize := 0
            pixelsPerMeter := (0, 0)
            coloursUsed := 0
            coloursNeeded := 0 } } ∧
        data.extract 54 layout.headerSize = palette ∧
        data.extract layout.headerSize data.size = pixels) ∧
    (palette.size ≠ layout.paletteSize →
      layout.encode palette pixels = .error (layout.paletteFault palette.size)) ∧
    (palette.size = layout.paletteSize → pixels.size ≠ layout.frameSize →
      layout.encode palette pixels = .error (layout.pixelFault pixels.size)) ∧
    ∀ (width' height' : UInt32) (depth' : UInt16) (layout' : BitmapLayout),
      new width'.toNat height'.toNat depth'.toNat = .ok layout' →
        ∀ palette' pixels' data data' : ByteArray, layout.encode palette pixels = .ok data →
          layout'.encode palette' pixels' = .ok data' →
            (data = data' ↔ layout = layout' ∧ palette = palette' ∧ pixels = pixels') := by
  obtain ⟨hwidth, hheight, hdepth⟩ := of_new hnew
  have hlt : layout.depth < 0x10000 := hdepth ▸ depth.toNat_lt
  refine ⟨fun hp hx ↦ ?_, encode_of_palette_ne, encode_of_pixels_ne, ?_⟩
  · have he := encode_of_sizes hp hx
    obtain ⟨hpalette, hpixels⟩ := extract_of_encode he
    refine ⟨_, he, ?_, hpalette, hpixels⟩
    rw [read_of_encode hlt he, size_of_encode he, ← hwidth, ← hheight, ← hdepth]
    rfl
  · intro width' height' depth' layout' hnew' palette' pixels' data data' he he'
    have hlt' : layout'.depth < 0x10000 := (of_new hnew').2.2 ▸ depth'.toNat_lt
    constructor
    · -- all that a layout is made of is among the fields that a reader finds
      intro hdata
      have hread := read_of_encode hlt he
      rw [hdata, read_of_encode hlt' he'] at hread
      obtain ⟨hheader, hpalette, hpixels⟩ := File.mk.inj (Option.some.inj hread)
      have hsame : layout = layout' := by
        have hw := congrArg Header.width hheader
        have hh := congrArg Header.height hheader
        have hd := congrArg Header.depth hheader
        simp only [header] at hw hh hd
        exact BitmapLayout.ext (by omega) (by omega) hd.symm
      exact ⟨hsame, hpalette.symm, hpixels.symm⟩
    · rintro ⟨rfl, rfl, rfl⟩
      exact Except.ok.inj (he.symm.trans he')

theorem encode_is_read_back_gray :
    let palette := (Bytes.build (fun i ↦ UInt8.ofNat (i / 4)) 1024).val
    let pixels := [1, 2, 3, 4].toByteArray
    ∃ layout data file, new 4 1 8 = .ok layout ∧ layout.encode palette pixels = .ok data ∧
      File.read? data = some file ∧ file.header.fileSize = data.size ∧ file.header.height = -1 ∧
      file.palette = palette ∧ file.pixels = pixels := by
  intro palette pixels
  have hnew : new 4 1 8 = .ok ⟨4, 1, 8, by decide, by decide, by decide, by decide, by decide,
    by decide⟩ := rfl
  have hp : palette.size = 1024 := (Bytes.build (fun i ↦ UInt8.ofNat (i / 4)) 1024).property
  have hx : pixels.size = 4 := rfl
  clear_value palette pixels
  obtain ⟨hok, -, -, -⟩ := encode_is_read_back 4 1 8 _ hnew palette pixels
  obtain ⟨data, he, hread, -⟩ := hok hp hx
  exact ⟨_, data, _, hnew, he, hread, rfl, rfl, rfl, rfl⟩

end BitmapLayout

end ScreenCapture

import ScreenCapture.Error
import ScreenCapture.Region

namespace ScreenCapture

namespace Bitmap

def fileHeaderSize : Nat := 14

def infoHeaderSize : Nat := 40

def paletteEntrySize : Nat := 4

def rowStride (width depth : Nat) : Nat := (width * depth + 31) / 32 * 4

def paletteEntries (depth : Nat) : Nat := if depth ≤ 8 then Nat.pow 2 depth else 0

def headerSize (depth : Nat) : Nat :=
  fileHeaderSize + infoHeaderSize + paletteEntries depth * paletteEntrySize

def fileSize (width height depth : Nat) : Nat := headerSize depth + rowStride width depth * height

def littleEndian : Nat → Nat → List UInt8
  | 0, _ => []
  | width + 1, n => UInt8.ofNat n :: littleEndian width (n / 256)

/-- A signed field of four bytes holds a negative number as its complement to `2 ^ 32`. -/
def signedField (v : Int) : List UInt8 := littleEndian 4 (v % 0x100000000).toNat

end Bitmap

open Bitmap

/-- The dimensions of a bitmap whose headers can hold them and its size. -/
@[ext]
structure BitmapLayout where
  width : Nat
  height : Nat
  depth : Nat
  width_pos : 0 < width
  height_pos : 0 < height
  wholeBytes : WholeBytes depth
  width_le : width ≤ 0x7fffffff
  height_le : height ≤ 0x7fffffff
  fileSize_le : Bitmap.fileSize width height depth ≤ 0xffffffff
deriving Repr

instance : DecidableEq BitmapLayout := fun _ _ ↦
  decidable_of_decidable_of_iff BitmapLayout.ext_iff.symm

namespace BitmapLayout

def new (width height depth : Nat) : Result BitmapLayout :=
  if h : (0 < width ∧ 0 < height) ∧ WholeBytes depth then
    if h' : (width ≤ 0x7fffffff ∧ height ≤ 0x7fffffff) ∧
        Bitmap.fileSize width height depth ≤ 0xffffffff then
      .ok ⟨width, height, depth, h.1.1, h.1.2, h.2, h'.1.1, h'.1.2, h'.2⟩
    else .error .bufferOverflow
  else .error (.invalidConfig (.bitmap width height depth))

variable (layout : BitmapLayout)

def rowStride : Nat := Bitmap.rowStride layout.width layout.depth

def paletteEntries : Nat := Bitmap.paletteEntries layout.depth

def paletteSize : Nat := layout.paletteEntries * paletteEntrySize

def headerSize : Nat := Bitmap.headerSize layout.depth

def frameSize : Nat := layout.rowStride * layout.height

def fileSize : Nat := layout.headerSize + layout.frameSize

def fileHeader : List UInt8 :=
  littleEndian 2 0x4d42 ++ littleEndian 4 layout.fileSize ++ littleEndian 2 0 ++
    littleEndian 2 0 ++ littleEndian 4 layout.headerSize

/-- The height is stored negated, which means that the rows come from top to bottom. -/
def infoHeader : List UInt8 :=
  littleEndian 4 infoHeaderSize ++ signedField layout.width ++ signedField (-layout.height) ++
    littleEndian 2 1 ++ littleEndian 2 layout.depth ++ littleEndian 4 0 ++ littleEndian 4 0 ++
    signedField 0 ++ signedField 0 ++ littleEndian 4 0 ++ littleEndian 4 0

def headers : ByteArray := (layout.fileHeader ++ layout.infoHeader).toByteArray

def encode (palette pixels : ByteArray) : Result ByteArray :=
  if palette.size ≠ layout.paletteSize then
    .error (.platform (.message
      s!"palette length mismatch: got {palette.size}, expected {layout.paletteSize}"))
  else if pixels.size ≠ layout.frameSize then
    .error (.platform (.message
      (s!"pixel buffer length mismatch: got {pixels.size}, expected {layout.frameSize}" ++
        s!" for {layout.width}x{layout.height}x{layout.depth}")))
  else .ok (layout.headers ++ palette ++ pixels)

end BitmapLayout

end ScreenCapture

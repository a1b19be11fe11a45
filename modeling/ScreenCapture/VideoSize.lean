import ScreenCapture.Error
import ScreenCapture.Text.Blank
import ScreenCapture.Text.Numeral

namespace ScreenCapture

open Text

@[ext]
structure VideoSize where
  width : Nat
  height : Nat
  width_pos : 0 < width
  height_pos : 0 < height
  width_lt : width < 0x100000000
  height_lt : height < 0x100000000
deriving Repr

instance : DecidableEq VideoSize := fun _ _ ↦
  decidable_of_decidable_of_iff VideoSize.ext_iff.symm

namespace VideoSize

def ofDimensions? (width height : Nat) : Option VideoSize :=
  if h : (0 < width ∧ 0 < height) ∧ width < 0x100000000 ∧ height < 0x100000000 then
    some ⟨width, height, h.1.1, h.1.2, h.2.1, h.2.2⟩
  else none

def new (width height : UInt32) : Result VideoSize :=
  match ofDimensions? width.toNat height.toNat with
  | some size => .ok size
  | none => .error (.invalidConfig (.size width.toNat height.toNat))

def names : List (String × Nat × Nat) :=
  [("ntsc", 720, 480), ("pal", 720, 576), ("qntsc", 352, 240), ("qpal", 352, 288),
    ("sntsc", 640, 480), ("spal", 768, 576), ("film", 352, 240), ("ntsc-film", 352, 240),
    ("sqcif", 128, 96), ("qcif", 176, 144), ("cif", 352, 288), ("4cif", 704, 576),
    ("16cif", 1408, 1152), ("qqvga", 160, 120), ("qvga", 320, 240), ("vga", 640, 480),
    ("svga", 800, 600), ("xga", 1024, 768), ("uxga", 1600, 1200), ("qxga", 2048, 1536),
    ("sxga", 1280, 1024), ("qsxga", 2560, 2048), ("hsxga", 5120, 4096), ("wvga", 852, 480),
    ("wxga", 1366, 768), ("wsxga", 1600, 1024), ("wuxga", 1920, 1200), ("woxga", 2560, 1600),
    ("wqsxga", 3200, 2048), ("wquxga", 3840, 2400), ("whsxga", 6400, 4096),
    ("whuxga", 7680, 4800), ("cga", 320, 200), ("ega", 640, 350), ("hd480", 852, 480),
    ("hd720", 1280, 720), ("hd1080", 1920, 1080), ("2k", 2048, 1080), ("2kflat", 1998, 1080),
    ("2kscope", 2048, 858), ("4k", 4096, 2160), ("4kflat", 3996, 2160),
    ("4kscope", 4096, 1716), ("nhd", 640, 360), ("hqvga", 240, 160), ("wqvga", 400, 240),
    ("fwqvga", 432, 240), ("hvga", 480, 320), ("qhd", 960, 540), ("2kdci", 2048, 1080),
    ("4kdci", 4096, 2160), ("uhd2160", 3840, 2160), ("uhd4320", 7680, 4320)]

def named? (s : List Char) : Option (Nat × Nat) := names.lookup (String.ofList (lower s))

def word? (s : List Char) : Option Nat := (Numeral.readNat 0xffffffff s).toOption

/-- A name, or else two numerals on either side of the first letter x. -/
def read? (s : List Char) : Option VideoSize :=
  match named? s with
  | some (width, height) => ofDimensions? width height
  | none =>
    match cut? (fun c ↦ c = 'x' || c = 'X') s with
    | some (width, height) => do ofDimensions? (← word? width) (← word? height)
    | none => none

def parse (text : String) : Result VideoSize :=
  let s := trim text.toList
  match read? s with
  | some size => .ok size
  | none => .error (.invalidConfig (.sizeText (String.ofList s)))

instance : ToString VideoSize := ⟨fun size ↦ s!"{size.width}x{size.height}"⟩

structure Sides where
  width : UInt32
  height : UInt32
deriving DecidableEq, Repr

instance : ToString Sides := ⟨fun sides ↦ s!"{sides.width}x{sides.height}"⟩

def sides (size : VideoSize) : Sides := ⟨.ofNat size.width, .ofNat size.height⟩

end VideoSize

end ScreenCapture

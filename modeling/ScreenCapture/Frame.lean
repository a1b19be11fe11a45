import ScreenCapture.Bitmap
import ScreenCapture.FrameRate

namespace ScreenCapture

/-- A bitmap file with the time at which it was taken. Times are in microseconds: `pts` of the
wall clock, the others of a timer. -/
structure Frame where
  data : ByteArray
  layout : BitmapLayout
  sequence : Nat
  pts : Int
  takenAt : Int
  duration : Int

namespace Frame

variable (frame : Frame)

def pixels : ByteArray := frame.data.extract frame.layout.headerSize frame.data.size

def size : Nat := frame.data.size

def isEmpty : Bool := frame.data.isEmpty

end Frame

inductive MediaKind
  | video
deriving DecidableEq, Repr

inductive Codec
  | bitmap
deriving DecidableEq, Repr

structure StreamInfo where
  timeBase : Nat × Nat
  frameRate : FrameRate
  mediaKind : MediaKind
  codec : Codec
  width : Nat
  height : Nat
  bitRate : Nat
deriving DecidableEq, Repr

def StreamInfo.of (layout : BitmapLayout) (rate : FrameRate) : StreamInfo where
  timeBase := (1, 1000000)
  frameRate := rate
  mediaKind := .video
  codec := .bitmap
  width := layout.width
  height := layout.height
  bitRate := min (layout.fileSize * 8 * rate.num / rate.den) 0xffffffffffffffff

end ScreenCapture

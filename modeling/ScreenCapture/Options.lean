import ScreenCapture.FrameRate
import ScreenCapture.Region
import ScreenCapture.VideoSize

namespace ScreenCapture

open Text

structure CaptureOptions where
  drawMouse : Bool
  showRegion : Bool
  frameRate : FrameRate
  /-- Size of the captured part; the whole target where there is none or a side of it is zero. -/
  videoSize : Option VideoSize.Sides
  offsetX : Int32
  offsetY : Int32
  /-- Refuse to take a frame that is not due yet instead of waiting for it. -/
  nonblocking : Bool
deriving DecidableEq

inductive OptionField
  | drawMouse
  | showRegion
  | frameRate
  | videoSize
  | offsetX
  | offsetY
  | nonblocking
deriving DecidableEq, Repr

inductive Setting
  | drawMouse (value : Bool)
  | showRegion (value : Bool)
  | frameRate (value : FrameRate)
  | videoSize (value : Option VideoSize.Sides)
  | offsetX (value : Int32)
  | offsetY (value : Int32)
  | nonblocking (value : Bool)
deriving DecidableEq

namespace OptionField

def all : List OptionField :=
  [drawMouse, showRegion, frameRate, videoSize, offsetX, offsetY, nonblocking]

def name : OptionField → String
  | drawMouse => "draw_mouse"
  | showRegion => "show_region"
  | frameRate => "framerate"
  | videoSize => "video_size"
  | offsetX => "offset_x"
  | offsetY => "offset_y"
  | nonblocking => "nonblocking"

def ofName? (name : String) : Option OptionField := all.find? (·.name = name)

def parseFlag (field : OptionField) (text : String) : Result Bool :=
  let word := String.ofList (lower (trim text.toList))
  if word ∈ ["1", "true", "yes", "on"] then .ok true
  else if word ∈ ["0", "false", "no", "off"] then .ok false
  else .error (.invalidConfig (.flag field.name text))

def parseOffset (field : OptionField) (text : String) : Result Int32 :=
  match Numeral.readInt 0x7fffffff (trim text.toList) with
  | .ok v => .ok (Int32.ofInt v)
  | .error _ => .error (.invalidConfig (.integer field.name text))

def parse (text : String) : OptionField → Result Setting
  | drawMouse => return .drawMouse (← parseFlag drawMouse text)
  | showRegion => return .showRegion (← parseFlag showRegion text)
  | frameRate => return .frameRate (← FrameRate.parse text)
  | videoSize => return .videoSize (some (← VideoSize.parse text).sides)
  | offsetX => return .offsetX (← parseOffset offsetX text)
  | offsetY => return .offsetY (← parseOffset offsetY text)
  | nonblocking => return .nonblocking (← parseFlag nonblocking text)

end OptionField

namespace CaptureOptions

def standard : CaptureOptions := ⟨true, false, .ntsc, none, 0, 0, false⟩

instance : Inhabited CaptureOptions := ⟨standard⟩

def request (options : CaptureOptions) : CaptureRequest where
  width := options.videoSize.elim 0 (·.width.toNat)
  height := options.videoSize.elim 0 (·.height.toNat)
  offsetX := options.offsetX.toInt
  offsetY := options.offsetY.toInt

def apply (options : CaptureOptions) : Setting → CaptureOptions
  | .drawMouse value => { options with drawMouse := value }
  | .showRegion value => { options with showRegion := value }
  | .frameRate value => { options with frameRate := value }
  | .videoSize value => { options with videoSize := value }
  | .offsetX value => { options with offsetX := value }
  | .offsetY value => { options with offsetY := value }
  | .nonblocking value => { options with nonblocking := value }

def set (options : CaptureOptions) (name text : String) : Result CaptureOptions :=
  match OptionField.ofName? name with
  | some field => return options.apply (← field.parse text)
  | none => .error (.invalidConfig (.unknownOption name))

end CaptureOptions

end ScreenCapture

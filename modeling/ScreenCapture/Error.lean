import ScreenCapture.Geometry

namespace ScreenCapture

/-- A failure outside this library, told from the outermost context to the innermost cause. -/
structure Cause where
  text : String
  sources : List String
deriving DecidableEq, Repr, Inhabited

namespace Cause

def message (text : String) : Cause := ⟨text, []⟩

def within (context : String) (cause : Cause) : Cause := ⟨context, cause.text :: cause.sources⟩

def chain (cause : Cause) : String := ": ".intercalate (cause.text :: cause.sources)

end Cause

inductive ConfigFault
  | bitmap (width height depth : Nat)
  | area (width height : Int) (depth : Nat)
  | resolution (logical physical : Resolution)
  | rate (num den : Nat)
  | rateText (text : String)
  | size (width height : Nat)
  | sizeText (text : String)
  | flag (option text : String)
  | integer (option text : String)
  | unknownOption (option : String)
  | other (reason : String)
deriving DecidableEq, Repr

def ConfigFault.message : ConfigFault → String
  | bitmap width height depth => s!"bitmap {width}x{height} with {depth} bits per pixel"
  | area width height depth => s!"capture area {width}x{height} with {depth} bits per pixel"
  | resolution logical physical =>
    s!"display resolution must be positive (logical {logical}, physical {physical})"
  | rate num den => s!"frame rate {num}/{den} must be positive"
  | rateText text => s!"invalid frame rate '{text}'"
  | size width height => s!"video size {width}x{height} must be positive"
  | sizeText text => s!"invalid video size '{text}'"
  | flag option text => s!"option '{option}' expects a boolean, got '{text}'"
  | integer option text => s!"option '{option}' expects an integer, got '{text}'"
  | unknownOption option => s!"unknown option '{option}'"
  | other reason => reason

inductive ErrorKind
  | configuration
  | resource
  | capture
  | overlay
  | backpressure
deriving DecidableEq, Repr

inductive CaptureError
  | invalidTarget (text : String)
  | windowNotFound (title : String)
  | outOfBounds (area bounds : Rect)
  | invalidConfig (fault : ConfigFault)
  /-- No monitor spans the point, not even on one axis. -/
  | unmappedPoint (point : Point)
  | noMonitors
  | resource (what : String) (cause : Cause)
  | bufferOverflow
  | unsupported
  | capture (cause : Cause)
  | closed
  | overlay (reason : String)
  | wouldBlock
  | platform (cause : Cause)
deriving DecidableEq, Repr

namespace CaptureError

def message : CaptureError → String
  | invalidTarget text =>
    s!"invalid capture target '{text}': use \"desktop\" or \"title=<window name>\""
  | windowNotFound title => s!"can't find window '{title}'"
  | outOfBounds area bounds => s!"capture area {area} extends outside available area {bounds}"
  | invalidConfig fault => s!"invalid capture configuration: {fault.message}"
  | unmappedPoint point => s!"no monitor contains logical point ({point.x}, {point.y})"
  | noMonitors => "no monitors were enumerated"
  | resource what cause => s!"failed to acquire {what}: {cause.chain}"
  | bufferOverflow => "frame buffer size overflow"
  | unsupported => "screen capture is not supported on this platform"
  | capture cause => s!"failed to capture image: {cause.chain}"
  | closed => "capture session is closed"
  | overlay reason => s!"pointer overlay failed: {reason}"
  | wouldBlock => "frame not ready yet, try again"
  | platform cause => cause.text

/-- The texts of the causes behind an error, the nearest first. A failed block copy tells its
cause in the message itself; a platform failure is its own cause. -/
def sources : CaptureError → List String
  | resource _ cause => cause.text :: cause.sources
  | platform cause => cause.sources
  | _ => []

def kind : CaptureError → ErrorKind
  | invalidTarget _ | windowNotFound _ | outOfBounds _ _ | invalidConfig _ | unmappedPoint _
  | noMonitors => .configuration
  | resource _ _ | bufferOverflow | unsupported | platform _ => .resource
  | capture _ | closed => .capture
  | overlay _ => .overlay
  | wouldBlock => .backpressure

/-- The same call can succeed later without any change by the caller. -/
def isRetryable (error : CaptureError) : Bool := error.kind = .backpressure

def toCause (error : CaptureError) : Cause := ⟨error.message, error.sources⟩

end CaptureError

abbrev Result (α : Type) := Except CaptureError α

/-- How a call ends without a result: with an error, or broken off where a difference of coordinates
is no coordinate. Nothing handles the latter. -/
inductive Failure (ε : Type)
  | error (error : ε)
  | overflow
deriving DecidableEq, Repr

namespace Failure

variable {ε : Type}

instance : MonadLift (Except ε) (Except (Failure ε)) := ⟨Except.mapError error⟩

instance : MonadLift Option (Except (Failure ε)) where
  monadLift
    | some a => .ok a
    | none => .error overflow

end Failure

end ScreenCapture

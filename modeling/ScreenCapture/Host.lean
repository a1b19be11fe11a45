import ScreenCapture.Bitmap
import ScreenCapture.Bytes
import ScreenCapture.Monitor
import ScreenCapture.Target

namespace ScreenCapture

/-- An operation that changes a world and may fail. -/
abbrev Attempt (ω : Type) := ExceptT CaptureError (StateM ω)

/-- An attempt that calculates with coordinates and may break off. -/
abbrev Procedure (ω : Type) := ExceptT (Failure CaptureError) (StateM ω)

instance (priority := low) {ω : Type} : MonadLift (Attempt ω) (Procedure ω) :=
  ⟨ExceptT.adapt .error⟩

/-- The pointer in logical screen coordinates. The hotspot is the point of its image that it
points with. -/
structure PointerState where
  visible : Bool
  position : Point
  hotspot : Point
deriving DecidableEq, Repr, Inhabited

inductive Severity
  | trace
  | debug
  | info
  | warn
  | error
deriving DecidableEq, Repr

def Severity.label : Severity → String
  | trace => "TRACE"
  | debug => "DEBUG"
  | info => "INFO"
  | warn => "WARN"
  | error => "ERROR"

structure LogLine where
  severity : Severity
  text : String
deriving DecidableEq, Repr

instance : ToString LogLine := ⟨fun line ↦ s!"{line.severity.label} {line.text}"⟩

/-- What a session acquires from a display and has to give back. -/
inductive Resource
  | source
  | surface
  | outline
deriving DecidableEq, Repr

structure Display (ω : Type) where
  monitors : Attempt ω (List Monitor)
  /-- Bounds of the desktop in logical coordinates. -/
  virtualScreen : Attempt ω Rect
  findWindow : String → Attempt ω (Option WindowId)
  /-- Bounds of a window in logical screen coordinates. -/
  windowRect : WindowId → Attempt ω Rect
  /-- The inside of a window in its own logical coordinates. -/
  clientRect : WindowId → Attempt ω Rect
  openSource : TargetHandle → Attempt ω Unit
  createOutline : Rect → Attempt ω Unit
  pumpOutline : StateM ω Unit
  release : Resource → StateM ω Unit

structure Source (ω : Type) where
  depth : StateM ω Nat
  deviceScale : StateM ω Scale
  allocateSurface : BitmapLayout → Attempt ω Unit
  /-- Copies a rectangle of physical pixels to the surface. -/
  blit : Rect → Attempt ω Unit
  /-- The colour table of the surface, which fills a buffer of the given size. -/
  readPalette : (size : Nat) → Attempt ω (Bytes size)
  pixels : Attempt ω ByteArray
  pointer : Attempt ω PointerState
  /-- Draws the pointer that was looked up last, with its image's corner at the given pixel. -/
  drawPointer : Point → Attempt ω Unit

/-- All times are in microseconds. -/
structure Clock (ω : Type) where
  /-- Time since the epoch. -/
  now : StateM ω Int
  sleep : Int → StateM ω Unit
  /-- A reading that only tells how much time has passed since another one. -/
  timer : StateM ω Int

structure Screen (ω : Type) extends Display ω, Source ω

/-- What a session works with. A world is any type of states, so that what a session does to every
world can be stated. -/
structure Host (ω : Type) extends Screen ω, Clock ω where
  log : LogLine → StateM ω Unit

/-- The states of a screen and of a clock that do not know of each other. -/
structure World (δ κ : Type) where
  screen : δ
  clock : κ

namespace World

variable {δ κ α : Type}

def onScreen (act : StateM δ α) : StateM (World δ κ) α := fun world ↦
  let (a, screen) := act world.screen
  (a, { world with screen })

def onClock (act : StateM κ α) : StateM (World δ κ) α := fun world ↦
  let (a, clock) := act world.clock
  (a, { world with clock })

end World

open World in
def Host.assemble {δ κ : Type} (screen : Screen δ) (clock : Clock κ) : Host (World δ κ) where
  monitors := onScreen screen.monitors
  virtualScreen := onScreen screen.virtualScreen
  findWindow title := onScreen (screen.findWindow title)
  windowRect window := onScreen (screen.windowRect window)
  clientRect window := onScreen (screen.clientRect window)
  openSource handle := onScreen (screen.openSource handle)
  createOutline rect := onScreen (screen.createOutline rect)
  pumpOutline := onScreen screen.pumpOutline
  release resource := onScreen (screen.release resource)
  depth := onScreen screen.depth
  deviceScale := onScreen screen.deviceScale
  allocateSurface layout := onScreen (screen.allocateSurface layout)
  blit rect := onScreen (screen.blit rect)
  readPalette size := onScreen (screen.readPalette size)
  pixels := onScreen screen.pixels
  pointer := onScreen screen.pointer
  drawPointer point := onScreen (screen.drawPointer point)
  now := onClock clock.now
  sleep micros := onClock (clock.sleep micros)
  timer := onClock clock.timer
  log _ := pure ()

end ScreenCapture

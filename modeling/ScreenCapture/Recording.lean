import ScreenCapture.Host

namespace ScreenCapture

inductive Call
  | monitors
  | virtualScreen
  | findWindow (title : String)
  | windowRect (window : WindowId)
  | clientRect (window : WindowId)
  | openSource (handle : TargetHandle)
  | createOutline (rect : Rect)
  | pumpOutline
  | release (resource : Resource)
  | depth
  | deviceScale
  | allocateSurface (layout : BitmapLayout)
  | blit (rect : Rect)
  | readPalette (size : Nat)
  | pixels
  | pointer
  | drawPointer (point : Point)
  | now
  | sleep (micros : Int)
  | timer
deriving DecidableEq, Repr

namespace Call

def name : Call → String
  | monitors => "enumerate_monitors"
  | virtualScreen => "virtual_screen"
  | findWindow _ => "find_window"
  | windowRect _ => "window_rect"
  | clientRect _ => "client_rect"
  | openSource _ => "open_source"
  | createOutline _ => "create_outline"
  | pumpOutline => "pump"
  | release .source => "release_source"
  | release .surface => "release_surface"
  | release .outline => "release_outline"
  | depth => "bits_per_pixel"
  | deviceScale => "device_scale"
  | allocateSurface _ => "allocate_surface"
  | blit _ => "blit"
  | readPalette _ => "read_palette"
  | pixels => "pixels"
  | pointer => "pointer"
  | drawPointer _ => "draw_pointer"
  | now => "now"
  | sleep _ => "sleep"
  | timer => "timer"

def arguments : Call → String
  | findWindow title => title
  | windowRect window | clientRect window | openSource (.window window) =>
    toString window.handle
  | openSource .desktop => "desktop"
  | createOutline rect | blit rect => toString rect
  | allocateSurface layout => s!"{layout.width}x{layout.height}x{layout.depth}"
  | readPalette size => toString size
  | drawPointer point => s!"{point.x},{point.y}"
  | sleep micros => toString micros
  | _ => ""

def IsGlance : Call → Prop
  | depth | deviceScale | pixels | now | timer => True
  | _ => False

instance (call : Call) : Decidable call.IsGlance := by
  cases call <;> simp only [IsGlance] <;> infer_instance

def line (call : Call) : String :=
  if call.arguments.isEmpty then call.name else s!"{call.name} {call.arguments}"

end Call

inductive Entry
  | call (call : Call)
  | log (line : LogLine)
deriving DecidableEq, Repr

/-- A world with the record of what was done to it, the latest entry last. -/
structure Recording (ω : Type) where
  world : ω
  entries : Array Entry

namespace Recording

variable {ω α : Type}

def ofWorld (world : ω) : Recording ω := ⟨world, #[]⟩

def add (entry : Entry) (recording : Recording ω) : Recording ω :=
  { recording with entries := recording.entries.push entry }

def onWorld (act : StateM ω α) : StateM (Recording ω) α := fun recording ↦
  let (a, world) := act recording.world
  (a, { recording with world })

def call (call : Call) (act : StateM ω α) : StateM (Recording ω) α := fun recording ↦
  onWorld act (recording.add (.call call))

def calls (recording : Recording ω) : List Call :=
  recording.entries.toList.filterMap fun
    | .call call => some call
    | .log _ => none

def lines (recording : Recording ω) : List LogLine :=
  recording.entries.toList.filterMap fun
    | .call _ => none
    | .log line => some line

end Recording

open Recording in
/-- The same host, with a record of its calls and log lines. -/
def Host.recorded {ω : Type} (h : Host ω) : Host (Recording ω) where
  monitors := call .monitors h.monitors
  virtualScreen := call .virtualScreen h.virtualScreen
  findWindow title := call (.findWindow title) (h.findWindow title)
  windowRect window := call (.windowRect window) (h.windowRect window)
  clientRect window := call (.clientRect window) (h.clientRect window)
  openSource handle := call (.openSource handle) (h.openSource handle)
  createOutline rect := call (.createOutline rect) (h.createOutline rect)
  pumpOutline := call .pumpOutline h.pumpOutline
  release resource := call (.release resource) (h.release resource)
  depth := call .depth h.depth
  deviceScale := call .deviceScale h.deviceScale
  allocateSurface layout := call (.allocateSurface layout) (h.allocateSurface layout)
  blit rect := call (.blit rect) (h.blit rect)
  readPalette size := call (.readPalette size) (h.readPalette size)
  pixels := call .pixels h.pixels
  pointer := call .pointer h.pointer
  drawPointer point := call (.drawPointer point) (h.drawPointer point)
  now := call .now h.now
  sleep micros := call (.sleep micros) (h.sleep micros)
  timer := call .timer h.timer
  log line := fun recording ↦ onWorld (h.log line) (recording.add (.log line))

end ScreenCapture

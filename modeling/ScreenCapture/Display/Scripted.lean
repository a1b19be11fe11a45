import ScreenCapture.Display.Window
import ScreenCapture.Recording

namespace ScreenCapture

/-- A display any call of which can be told to fail, with any error. -/
structure ScriptedDisplay where
  /-- Bounds, logical and physical size of each monitor; the sizes need not be valid. -/
  monitors : List (Rect × Resolution × Resolution)
  virtualScreen : Rect
  windows : List Window
  depth : Nat
  deviceScale : Scale
  faults : List (String × CaptureError)
  pointer : PointerState
  /-- How many bytes a surface has more than it should. -/
  excess : Int
  surface : Option (BitmapLayout × ByteArray)
  blits : Nat

namespace ScriptedDisplay

def largestSurface : Nat := 67108864

def paletteByte (i : Nat) : UInt8 :=
  let entry := UInt8.ofNat (i / 4)
  match i % 4 with
  | 0 => entry
  | 1 => 255 - entry
  | 2 => entry ^^^ 0x55
  | _ => 0

section

variable (display : ScriptedDisplay)

def withoutFault (call : String) : ScriptedDisplay :=
  { display with faults := display.faults.filter (·.1 ≠ call) }

def withFault (call : String) (error : CaptureError) : ScriptedDisplay :=
  { display with faults := (call, error) :: (display.withoutFault call).faults }

end

def heed (call : Call) : Attempt ScriptedDisplay Unit := do
  match (← get).faults.lookup call.name with
  | some error => throw error
  | none => return

def allocateSurface (layout : BitmapLayout) : Attempt ScriptedDisplay Unit := do
  if largestSurface < layout.frameSize then
    throw (.resource "DIB section" (.message "surface too large"))
  modify fun display ↦ { display with
    surface := some (layout, Bytes.build (fun _ ↦ 0) (layout.frameSize + display.excess).toNat) }

def blit : StateM ScriptedDisplay Unit :=
  modify fun display ↦
    let blits := display.blits + 1
    { display with
      blits
      surface := display.surface.map fun (layout, bytes) ↦
        (layout, Bytes.build (fun k ↦ UInt8.ofNat (31 * blits + 7 * k)) bytes.size) }

def pixels : StateM ScriptedDisplay ByteArray := do
  return (← get).surface.elim .empty Prod.snd

def drawPointer (point : Point) : StateM ScriptedDisplay Unit :=
  modify fun display ↦ { display with
    surface := display.surface.map fun (layout, bytes) ↦
      let i := point.y * layout.rowStride + (point.x * layout.depth).tdiv 8
      (layout, if 0 ≤ i ∧ i < bytes.size then bytes.set! i.toNat 0xEE else bytes) }

end ScriptedDisplay

open ScriptedDisplay in
def Screen.scripted : Screen ScriptedDisplay where
  monitors := do
    heed .monitors
    (← get).monitors.mapM fun (rect, logical, physical) ↦
      (Monitor.new rect logical physical : Result Monitor)
  virtualScreen := do
    heed .virtualScreen
    return (← get).virtualScreen
  findWindow title := do
    heed (.findWindow title)
    return (Window.byTitle? (← get).windows title).map Window.id
  windowRect id := do
    heed (.windowRect id)
    return (← Window.byId (← get).windows id).windowRect
  clientRect id := do
    heed (.clientRect id)
    return (← Window.byId (← get).windows id).clientRect
  openSource handle := heed (.openSource handle)
  createOutline rect := heed (.createOutline rect)
  pumpOutline := pure ()
  release
    | .surface => modify fun display ↦ { display with surface := none }
    | _ => pure ()
  depth := do return (← get).depth
  deviceScale := do return (← get).deviceScale
  allocateSurface layout := do
    heed (.allocateSurface layout)
    allocateSurface layout
  blit rect := do
    heed (.blit rect)
    blit
  readPalette size := do
    heed (.readPalette size)
    return .build paletteByte size
  pixels := do
    heed .pixels
    pixels
  pointer := do
    heed .pointer
    return (← get).pointer
  drawPointer point := do
    heed (.drawPointer point)
    drawPointer point

end ScreenCapture

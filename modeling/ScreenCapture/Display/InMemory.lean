import ScreenCapture.Display.Window

namespace ScreenCapture

structure MemorySource where
  surface : Option ByteArray
  sampled : Option PointerState

/-- A display that counts the calls of a session and keeps a list of what it acquires and releases. -/
structure MemoryDisplay where
  monitors : List Monitor
  windows : List Window
  depth : Nat
  source : Option MemorySource
  events : Array String
  live : Nat
  blits : Nat
  pumps : Nat
  pointerQueries : Nat
  draws : Array Point
  pointer : PointerState
  failBlit : Bool
  failPointer : Bool
  failSurface : Bool

namespace MemoryDisplay

def firstHandle : Int := 0x1000

def withMonitors (monitors : List Monitor) : MemoryDisplay where
  monitors
  windows := []
  depth := 32
  source := none
  events := #[]
  live := 0
  blits := 0
  pumps := 0
  pointerQueries := 0
  draws := #[]
  pointer := default
  failBlit := false
  failPointer := false
  failSurface := false

def fullHD : MemoryDisplay :=
  withMonitors [⟨⟨0, 0, 1920, 1080⟩, ⟨1920, 1080⟩, ⟨1920, 1080⟩, by decide, by decide⟩]

def twoByTwo : MemoryDisplay :=
  withMonitors [⟨⟨0, 0, 2, 2⟩, ⟨2, 2⟩, ⟨2, 2⟩, by decide, by decide⟩]

def noSurface : CaptureError := .platform (.message "no surface selected")

/-- Writes a shade of gray to each whole entry of a colour table and leaves the rest as it is. -/
def fillPalette {n : Nat} (buffer : Bytes n) : Bytes n :=
  .build (fun i ↦
    if n / 4 * 4 ≤ i then buffer.val.get! i
    else if i % 4 = 3 then 0
    else UInt8.ofNat (i / 4)) n

section

variable (display : MemoryDisplay)

def addWindow (title : String) (windowRect clientRect : Rect) : MemoryDisplay :=
  { display with windows := display.windows ++
      [⟨title, ⟨firstHandle + display.windows.length⟩, windowRect, clientRect⟩] }

def deviceScale : Scale := display.monitors.head?.elim .identity Monitor.scale

def acquire (what : String) : MemoryDisplay :=
  { display with live := display.live + 1, events := display.events.push s!"acquire {what}" }

def discharge (what : String) : MemoryDisplay :=
  { display with live := display.live - 1, events := display.events.push s!"release {what}" }

def release : Resource → MemoryDisplay
  | .outline => display.discharge "outline"
  | .source => { display.discharge "source" with source := none }
  | .surface =>
    { display.discharge "surface" with
      source := display.source.map fun source ↦ { source with surface := none } }

def dropSource : MemoryDisplay :=
  match display.source with
  | none => display
  | some ⟨none, _⟩ => display.release .source
  | some ⟨some _, _⟩ => (display.release .surface).release .source

end

def openSource : StateM MemoryDisplay Unit :=
  modify fun display ↦ { display.acquire "source" with source := some ⟨none, none⟩ }

def allocateSurface (layout : BitmapLayout) : Attempt MemoryDisplay Unit := do
  if (← get).failSurface then throw (.resource "DIB section" (.message "out of memory"))
  modify fun display ↦ { display.acquire "surface" with
    source := display.source.map fun source ↦
      { source with surface := some (Bytes.build (fun _ ↦ 0) layout.frameSize).val } }

/-- The surface after the n-th copy is filled with n. -/
def blit : Attempt MemoryDisplay Unit := do
  if (← get).failBlit then
    throw (.capture (.message "BitBlt failed: the window handle is invalid"))
  modify fun display ↦ { display with blits := display.blits + 1 }
  let { source, blits, .. } ← get
  match source with
  | some ⟨some surface, sampled⟩ =>
    let pixels := Bytes.build (fun _ ↦ UInt8.ofNat blits) surface.size
    modify fun display ↦ { display with source := some ⟨some pixels.val, sampled⟩ }
  | _ => throw noSurface

def pixels : Attempt MemoryDisplay ByteArray := do
  match (← get).source with
  | some ⟨some surface, _⟩ => return surface
  | _ => throw noSurface

def samplePointer : Attempt MemoryDisplay PointerState := do
  modify fun display ↦ { display with pointerQueries := display.pointerQueries + 1 }
  let { pointer, failPointer, .. } ← get
  if failPointer then throw (.overlay "could not get icon info")
  modify fun display ↦ { display with
    source := display.source.map fun source ↦ { source with sampled := some pointer } }
  return pointer

def drawPointer (point : Point) : Attempt MemoryDisplay Unit := do
  match (← get).source with
  | some ⟨_, some _⟩ =>
    modify fun display ↦ { display with draws := display.draws.push point }
  | _ => throw (.overlay "no cursor sampled")

end MemoryDisplay

open MemoryDisplay in
def Screen.inMemory : Screen MemoryDisplay where
  monitors := do return (← get).monitors
  virtualScreen := do return Topology.boundingRect ((← get).monitors.map Monitor.rect)
  findWindow title := do return (Window.byTitle? (← get).windows title).map Window.id
  windowRect id := do return (← Window.byId (← get).windows id).windowRect
  clientRect id := do return (← Window.byId (← get).windows id).clientRect
  openSource _ := openSource
  createOutline _ := modify (·.acquire "outline")
  pumpOutline := modify fun display ↦ { display with pumps := display.pumps + 1 }
  release resource := modify (·.release resource)
  depth := do return (← get).depth
  deviceScale := do return (← get).deviceScale
  allocateSurface := allocateSurface
  blit _ := blit
  readPalette size := return fillPalette (.build (fun _ ↦ 0) size)
  pixels := pixels
  pointer := samplePointer
  drawPointer := drawPointer

end ScreenCapture

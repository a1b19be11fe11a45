import ScreenCapture.Frame
import ScreenCapture.Options
import ScreenCapture.Overlay
import ScreenCapture.Pacer
import ScreenCapture.Resolve

namespace ScreenCapture

variable {ω α : Type} (h : Host ω)

/-- Gives `resource` back if what is done with it fails or breaks off. -/
def Host.holding (resource : Resource) (act : Procedure ω α) : Procedure ω α := do
  try act
  catch failure =>
    h.release resource
    throw failure

def CaptureError.asCapture : CaptureError → CaptureError
  | .capture cause => .capture cause
  | error => .capture error.toCause

/-- One target, and one bitmap frame per read, paced by a clock. -/
structure Session where
  options : CaptureOptions
  topology : Topology
  target : ResolvedTarget
  layout : BitmapLayout
  stream : StreamInfo
  pacer : Pacer
  overlay : Option PointerOverlay
  /-- What is acquired, the latest first. -/
  held : List Resource
  sequence : Nat

inductive Reading
  | frame (frame : Frame)
  | failed (error : CaptureError)
  /-- The pointer has no place among the coordinates. -/
  | overflow
  /-- The frame was still not due after as many sleeps as the reader was ready to wait for. -/
  | unfinished

def Reading.ofFailure : Failure CaptureError → Reading
  | .error error => .failed error
  | .overflow => .overflow

inductive Waiting
  | due (schedule : Schedule) (now : Int)
  | refused
  | unfinished
deriving DecidableEq, Repr

namespace Session

def settle (options : CaptureOptions) (handle : TargetHandle) : StateM ω CaptureOptions := do
  if options.showRegion ∧ handle ≠ .desktop then
    h.log ⟨.warn, "Can't show region when grabbing a window."⟩
    return { options with showRegion := false }
  return options

def placementOf (resolved : ResolvedTarget) : StateM ω Placement :=
  match resolved.handle with
  | .desktop => do return .desktop (← h.deviceScale)
  | .window window => return .window window (resolved.windowScale.getD .identity)

def streamLine (layout : BitmapLayout) (stream : StreamInfo) : String :=
  s!"Stream {stream.width}x{stream.height} at {stream.frameRate} fps, " ++
    s!"{layout.fileSize} bytes per frame, {stream.bitRate} bit/s"

def overlayOf (options : CaptureOptions) (resolved : ResolvedTarget) :
    StateM ω (Option PointerOverlay) := do
  if options.drawMouse then return some (PointerOverlay.new (← placementOf h resolved))
  return none

def setUp (options : CaptureOptions) (topology : Topology) (target : ResolvedTarget)
    (layout : BitmapLayout) : StateM ω Session := do
  let overlay ← overlayOf h options target
  let pacer := Pacer.start options.frameRate (← h.now)
  let stream := StreamInfo.of layout options.frameRate
  h.log ⟨.debug, streamLine layout stream⟩
  return {
    options, topology, target, layout, stream, pacer, overlay
    held := if options.showRegion then [.outline, .surface, .source] else [.surface, .source]
    sequence := 0 }

/-- Finds the target, checks the part to capture, and acquires the source, its surface and, where
it is asked for, the outline. -/
def start (options : CaptureOptions) (target : CaptureTarget) : Procedure ω Session := do
  let handle ← h.findTarget target
  let options ← settle h options handle
  h.openSource handle
  h.holding .source do
    let depth ← h.depth
    let topology ← h.resolveTopology
    let target ← h.resolveTarget topology handle options.request depth
    let rect := target.captureRect
    let layout ← BitmapLayout.new rect.width.toNat rect.height.toNat depth
    h.allocateSurface layout
    h.holding .surface do
      if options.showRegion then h.createOutline rect
      setUp h options topology target layout

variable (session : Session)

def IsClosed : Prop := session.held = []

instance : Decidable session.IsClosed := inferInstanceAs (Decidable (_ = _))

def pump : StateM ω Unit := do
  if .outline ∈ session.held then h.pumpOutline

def await (pacer : Pacer) (nonblocking : Bool) (patience : Nat) : StateM ω Waiting := do
  let now ← h.now
  let schedule := pacer.schedule now
  if schedule.IsDue then return .due schedule now
  if nonblocking then return .refused
  match patience with
  | 0 => return .unfinished
  | patience + 1 =>
    h.sleep schedule.delay
    await pacer nonblocking patience

def blit : Attempt ω Unit := do
  try h.blit session.target.captureRect
  catch error =>
    h.log ⟨.error, s!"Failed to capture image: {error.message}"⟩
    throw error.asCapture

def drawPointer : StateM ω (Option Session) := do
  match session.overlay with
  | none => return session
  | some overlay =>
    let overlay? ← overlay.draw h session.topology session.target.captureRect
    return overlay?.map fun overlay ↦ { session with overlay := some overlay }

def encode : Attempt ω ByteArray := do
  let palette ← if session.layout.paletteSize = 0 then pure ByteArray.empty
    else do pure (← h.readPalette session.layout.paletteSize).val
  session.layout.encode palette (← h.pixels)

/-- One tick: copies the pixels, draws the pointer and encodes. Only a tick that succeeds moves the
deadline and counts. -/
def tick (schedule : Schedule) (now : Int) :
    StateM ω (Except (Failure CaptureError) Frame × Session) := do
  let started ← h.timer
  match ← (session.blit h).run with
  | .error error => return (.error (.error error), session)
  | .ok () =>
    match ← session.drawPointer h with
    | none => return (.error .overflow, session)
    | some session =>
      match ← (session.encode h).run with
      | .error error => return (.error (.error error), session)
      | .ok data =>
        let takenAt ← h.timer
        let ended ← h.timer
        let frame : Frame := {
          data, takenAt
          layout := session.layout
          sequence := session.sequence
          pts := now
          duration := ended - started }
        return (.ok frame, { session with
          pacer := session.pacer.commit schedule
          sequence := session.sequence + 1 })

/-- Waits for the next frame and takes it. A session that does not block refuses to wait before it
touches the screen. -/
def read (patience : Nat) : StateM ω (Reading × Session) := do
  if session.IsClosed then return (.failed .closed, session)
  session.pump h
  match ← await h session.pacer session.options.nonblocking patience with
  | .refused => return (.failed .wouldBlock, session)
  | .unfinished => return (.unfinished, session)
  | .due schedule now =>
    match ← session.tick h schedule now with
    | (.ok frame, session) => return (.frame frame, session)
    | (.error failure, session) => return (.ofFailure failure, session)

/-- Gives everything back. A closed session has nothing to give. -/
def close : StateM ω Session := do
  if session.IsClosed then return session
  session.held.forM h.release
  h.log ⟨.debug, s!"Capture session closed after {session.sequence} frames"⟩
  return { session with held := [] }

def captureOnce (patience : Nat) (target : CaptureTarget) : StateM ω Reading := do
  match ← (start h .standard target).run with
  | .error failure => return .ofFailure failure
  | .ok session =>
    let (reading, session) ← session.read h patience
    let _ ← session.close h
    return reading

end Session

end ScreenCapture

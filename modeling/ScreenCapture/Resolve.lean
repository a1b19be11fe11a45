import ScreenCapture.Host
import ScreenCapture.Region

namespace ScreenCapture

/-- A target that was found, with everything that could be captured of it and the part that is. -/
structure ResolvedTarget where
  handle : TargetHandle
  area : Rect
  captureRect : Rect
  /-- Scale of the monitor that a window was on. -/
  windowScale : Option Scale
deriving DecidableEq, Repr

namespace Host

variable {ω : Type} (h : Host ω)

def resolveTopology : Attempt ω Topology := do
  let topology ← Topology.ofMonitors (← h.monitors)
  topology.monitors.zipIdx.forM fun (monitor, i) ↦
    h.log ⟨.debug, s!"Monitor {i} {monitor.rect}, logical res:({monitor.scale.logical}), " ++
      s!"physical res:({monitor.scale.physical})"⟩
  return topology

def findTarget : CaptureTarget → Attempt ω TargetHandle
  | .desktop => return .desktop
  | .window title => do
    match ← h.findWindow title with
    | some window => return .window window
    | none => throw (.windowNotFound title)

/-- The scale of a window is that of the monitors at its center, or of the first one when it is
off all of them. -/
def scaleOfWindow (topology : Topology) (windowRect : Rect) : Attempt ω Scale := do
  match topology.scaleOf? windowRect with
  | some scale => return scale
  | none =>
    h.log ⟨.debug, s!"Window {windowRect} is on no monitor, using the first monitor's scale"⟩
    match topology.get? 0 with
    | some monitor => return monitor.scale
    | none => throw .noMonitors

/-- All that can be captured of a target, and the scale that a window is seen with. -/
def captureArea (topology : Topology) : TargetHandle → Procedure ω (Rect × Option Scale)
  | .desktop => do
    let logical ← h.virtualScreen
    let physical ← topology.toPhysical logical
    h.log ⟨.debug, s!"Desktop {logical} converted to physical {physical}"⟩
    return (physical, none)
  | .window window => do
    let windowRect ← h.windowRect window
    let scale ← h.scaleOfWindow topology windowRect
    let client ← h.clientRect window
    let physical := scale.mapRect client
    h.log ⟨.debug, s!"Window client {client} converted to physical {physical}"⟩
    return (physical, some scale)

def announcement (handle : TargetHandle) (rect : Rect) (depth : Nat) : String :=
  let what := s!"{rect.width}x{rect.height}x{depth} at ({rect.left},{rect.top})"
  match handle with
  | .desktop => s!"Capturing whole desktop as {what}"
  | .window window => s!"Found window {window.stableId}, capturing {what}"

def resolveTarget (topology : Topology) (handle : TargetHandle) (request : CaptureRequest)
    (depth : Nat) : Procedure ω ResolvedTarget := do
  let (area, windowScale) ← h.captureArea topology handle
  let captureRect ← request.select area depth
  h.log ⟨.info, announcement handle captureRect depth⟩
  return { handle, area, captureRect, windowScale }

end Host

end ScreenCapture

import ScreenCapture.Host

namespace ScreenCapture

open Coordinate

inductive Placement
  /-- Scale by the source device, then shift by the origin of the capture. -/
  | desktop (scale : Scale)
  /-- Shift into the window, then scale by the window's monitor. -/
  | window (window : WindowId) (scale : Scale)
deriving DecidableEq, Repr

namespace PointerState

variable (pointer : PointerState)

def onDesktop? (scale : Scale) (captureRect : Rect) : Option Point := do
  let x ← less? (scale.x pointer.position.x) [captureRect.left, pointer.hotspot.x]
  let y ← less? (scale.y pointer.position.y) [captureRect.top, pointer.hotspot.y]
  return ⟨x, y⟩

def onWindow? (origin : Point) (scale : Scale) (captureRect : Rect) : Option Point := do
  let x ← less? pointer.position.x [captureRect.left, pointer.hotspot.x, origin.x]
  let y ← less? pointer.position.y [captureRect.top, pointer.hotspot.y, origin.y]
  return ⟨scale.x x, scale.y y⟩

end PointerState

def CaptureError.asOverlay : CaptureError → CaptureError
  | .overlay reason => .overlay reason
  | error => .overlay error.message

/-- A failure to draw the pointer never fails the frame. The first one is logged, and later ones of
the same session are passed over. -/
structure PointerOverlay where
  placement : Placement
  reported : Bool
deriving DecidableEq, Repr

namespace PointerOverlay

def new (placement : Placement) : PointerOverlay := ⟨placement, false⟩

variable {ω : Type} (h : Host ω)

/-- A window may have moved since the capture was set up, to another monitor too. -/
def position (topology : Topology) (captureRect : Rect) (pointer : PointerState) :
    Placement → Procedure ω Point
  | .desktop scale => pointer.onDesktop? scale captureRect
  | .window window scale => do
    let windowRect ← (h.windowRect window).adapt fun error ↦
      .error (.overlay s!"couldn't get window rectangle: {error.message}")
    let scale := (topology.scaleOf? windowRect).getD scale
    pointer.onWindow? windowRect.origin scale captureRect

def attempt (placement : Placement) (topology : Topology) (captureRect : Rect) :
    Procedure ω Unit := do
  let pointer ← h.pointer.adapt fun error ↦ .error error.asOverlay
  if pointer.visible then
    let p ← position h topology captureRect pointer placement
    h.log ⟨.trace,
      s!"Cursor pos ({pointer.position.x},{pointer.position.y}) -> ({p.x},{p.y})"⟩
    if p ∈ Rect.mk 0 0 captureRect.width captureRect.height then
      (h.drawPointer p).adapt fun error ↦ .error error.asOverlay

/-- Gives no overlay if the drawing breaks off. -/
def draw (overlay : PointerOverlay) (topology : Topology) (captureRect : Rect) :
    StateM ω (Option PointerOverlay) := do
  match ← (attempt h overlay.placement topology captureRect).run with
  | .ok () => return overlay
  | .error .overflow => return none
  | .error (.error error) =>
    if overlay.reported then return overlay
    h.log ⟨.warn, error.message⟩
    return some { overlay with reported := true }

end PointerOverlay

end ScreenCapture

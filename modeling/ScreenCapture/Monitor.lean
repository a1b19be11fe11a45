import ScreenCapture.Error

namespace ScreenCapture

/-- The ratio of physical to logical pixels on each axis. -/
structure Scale where
  logical : Resolution
  physical : Resolution
  logical_pos : logical.Positive
  physical_pos : physical.Positive
deriving DecidableEq, Repr

namespace Scale

def new (logical physical : Resolution) : Result Scale :=
  if h : logical.Positive ∧ physical.Positive then .ok ⟨logical, physical, h.1, h.2⟩
  else .error (.invalidConfig (.resolution logical physical))

def identity : Scale := ⟨⟨1, 1⟩, ⟨1, 1⟩, by decide, by decide⟩

instance : Inhabited Scale := ⟨identity⟩

/-- `v * physical / logical`, rounded down. -/
def along (physical logical v : Int) : Int := Coordinate.saturate (v * physical / logical)

def x (scale : Scale) (v : Int) : Int := along scale.physical.width scale.logical.width v

def y (scale : Scale) (v : Int) : Int := along scale.physical.height scale.logical.height v

def combine (horizontal vertical : Scale) : Scale where
  logical := ⟨horizontal.logical.width, vertical.logical.height⟩
  physical := ⟨horizontal.physical.width, vertical.physical.height⟩
  logical_pos := ⟨horizontal.logical_pos.1, vertical.logical_pos.2⟩
  physical_pos := ⟨horizontal.physical_pos.1, vertical.physical_pos.2⟩

def mapRect (scale : Scale) (rect : Rect) : Rect :=
  ⟨scale.x rect.left, scale.y rect.top, scale.x rect.right, scale.y rect.bottom⟩

end Scale

structure Monitor where
  rect : Rect
  scale : Scale
deriving DecidableEq, Repr

def Monitor.new (rect : Rect) (logical physical : Resolution) : Result Monitor := do
  return ⟨rect, ← Scale.new logical physical⟩

structure Topology where
  monitors : List Monitor
deriving DecidableEq, Repr, Inhabited

namespace Topology

def ofMonitors : List Monitor → Result Topology
  | [] => .error .noMonitors
  | monitors => .ok ⟨monitors⟩

def boundingRect (rects : List Rect) : Rect := rects.foldl Rect.union .zero

variable (topology : Topology)

def combined : Rect := boundingRect (topology.monitors.map Monitor.rect)

def get? (i : Nat) : Option Monitor := topology.monitors[i]?

def monitorAt? (p : Point) : Option Nat := topology.monitors.findIdx? fun m ↦ p ∈ m.rect

def monitorAtX? (x : Int) : Option Nat :=
  topology.monitors.findIdx? fun m ↦ m.rect.left ≤ x ∧ x < m.rect.right

def monitorAtY? (y : Int) : Option Nat :=
  topology.monitors.findIdx? fun m ↦ m.rect.top ≤ y ∧ y < m.rect.bottom

/-- A rectangle belongs to the monitor that its center is on. -/
def monitorOf? (rect : Rect) : Option Nat := topology.monitorAt? rect.center

/-- The monitors that decide the two axes of a point: the one that it is on, or else the first
that spans its column and the first that spans its row. -/
def locate? (p : Point) : Option (Nat × Nat) :=
  match topology.monitorAt? p with
  | some i => some (i, i)
  | none => do return (← topology.monitorAtX? p.x, ← topology.monitorAtY? p.y)

def scaleOf? (rect : Rect) : Option Scale := do
  let (i, j) ← topology.locate? rect.center
  return .combine (← topology.get? i).scale (← topology.get? j).scale

def locate (p : Point) : Result (Nat × Nat) :=
  match topology.locate? p with
  | some axes => .ok axes
  | none => .error (.unmappedPoint p)

def scaleX (i : Nat) (v : Int) : Int := (topology.get? i).elim v (·.scale.x v)

def scaleY (i : Nat) (v : Int) : Int := (topology.get? i).elim v (·.scale.y v)

/-- From logical to physical pixels. The two corners are scaled each by the monitors that they are
on; the last pixel stands for the lower right corner, which is outside. -/
def toPhysical (rect : Rect) : Except (Failure CaptureError) Rect := do
  let (i, j) ← topology.locate rect.origin
  let (k, l) ← topology.locate (← rect.last?)
  return ⟨topology.scaleX i rect.left, topology.scaleY j rect.top,
    topology.scaleX k rect.right, topology.scaleY l rect.bottom⟩

end Topology

end ScreenCapture

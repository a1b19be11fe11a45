import ScreenCapture.Proofs.Run

namespace ScreenCapture

variable {ω α β : Type}

/-- Writes over the bytes of a buffer. If it fails, it may have written some of them. -/
def Filler (ω : Type) : Type := (size : Nat) → Bytes size → StateM ω (Result Unit × Bytes size)

namespace Filler

variable (fill : Filler ω) (size : Nat)

/-- The bytes that were in the buffer matter to nothing but what a failure leaves there. -/
def Covers : Prop :=
  ∀ (old old' : Bytes size) (w : ω),
    (fill size old w).1.1 = (fill size old' w).1.1 ∧ (fill size old w).2 = (fill size old' w).2 ∧
      ((fill size old w).1.1 = .ok () → (fill size old w).1.2 = (fill size old' w).1.2)

def blank : Bytes size := .build (fun _ ↦ 0) size

def onBlank : Attempt ω (Bytes size) := fun w ↦
  let ((result, bytes), w) := fill size (blank size) w
  (result.map fun () ↦ bytes, w)

def plain (byte : UInt8) : Filler ω := fun size _ w ↦
  ((.ok (), ⟨⟨.replicate size byte⟩, Array.size_replicate⟩), w)

theorem plain_covers (byte : UInt8) : (plain byte : Filler ω).Covers size :=
  fun _ _ _ ↦ ⟨rfl, rfl, fun _ ↦ rfl⟩

end Filler

/-- A world with the buffer that colour tables are written to. -/
structure Buffered (ω : Type) where
  world : ω
  buffer : ByteArray

namespace Buffered

def onWorld (act : StateM ω α) : StateM (Buffered ω) α := fun s ↦
  let (a, world) := act s.world
  (a, { s with world })

/-- The buffer as it was left, or a new one if that has another size. -/
def bytes (s : Buffered ω) (size : Nat) : Bytes size :=
  if hs : s.buffer.size = size then ⟨s.buffer, hs⟩ else Filler.blank size

def inPlace (fill : Filler ω) (size : Nat) : Attempt (Buffered ω) (Bytes size) := fun s ↦
  let ((result, bytes), world) := fill size (s.bytes size) s.world
  (result.map fun () ↦ bytes, ⟨world, bytes.val⟩)

end Buffered

open Buffered in
/-- The same host, but for its colour tables, which are read with `fill` into a buffer. -/
def Host.buffered (h : Host ω) (fill : Filler ω) : Host (Buffered ω) where
  monitors := onWorld h.monitors
  virtualScreen := onWorld h.virtualScreen
  findWindow title := onWorld (h.findWindow title)
  windowRect window := onWorld (h.windowRect window)
  clientRect window := onWorld (h.clientRect window)
  openSource handle := onWorld (h.openSource handle)
  createOutline rect := onWorld (h.createOutline rect)
  pumpOutline := onWorld h.pumpOutline
  release resource := onWorld (h.release resource)
  depth := onWorld h.depth
  deviceScale := onWorld h.deviceScale
  allocateSurface layout := onWorld (h.allocateSurface layout)
  blit rect := onWorld (h.blit rect)
  readPalette size := inPlace fill size
  pixels := onWorld h.pixels
  pointer := onWorld h.pointer
  drawPointer point := onWorld (h.drawPointer point)
  now := onWorld h.now
  sleep micros := onWorld (h.sleep micros)
  timer := onWorld h.timer
  log line := onWorld (h.log line)

def Overlooks ⦃α : Type⦄ (act : StateM (Buffered ω) α) (act' : StateM ω α) : Prop :=
  ∀ w buffer, ∃ buffer', act ⟨w, buffer⟩ = ((act' w).1, ⟨(act' w).2, buffer'⟩)

namespace Overlooks

theorem onWorld (act : StateM ω α) : Overlooks (Buffered.onWorld act) act :=
  fun _ buffer ↦ ⟨buffer, rfl⟩

theorem composes : Composes (Overlooks (ω := ω)) where
  pure a w buffer := ⟨buffer, rfl⟩
  bind {α β act act' next next'} hfirst hnext w buffer := by
    obtain ⟨buffer₁, hact⟩ := hfirst w buffer
    have hn := hnext ⟨w, buffer⟩
    rw [hact] at hn
    obtain ⟨buffer₂, hrest⟩ := hn (act' w).2 buffer₁
    refine ⟨buffer₂, ?_⟩
    change next (act ⟨w, buffer⟩).1 (act ⟨w, buffer⟩).2 = _
    rw [hact]
    exact hrest

theorem inPlace {fill : Filler ω} {size : Nat} (hc : fill.Covers size) :
    Overlooks (Buffered.inPlace fill size) (fill.onBlank size) := by
  intro w buffer
  obtain ⟨hresult, hworld, hbytes⟩ :=
    hc (Buffered.bytes ⟨w, buffer⟩ size) (Filler.blank size) w
  unfold Buffered.inPlace Filler.onBlank
  rcases hf : fill size (Filler.blank size) w with ⟨⟨result, new⟩, w'⟩
  rcases hf' : fill size (Buffered.bytes ⟨w, buffer⟩ size) w with ⟨⟨result', new'⟩, w''⟩
  rw [hf, hf'] at hresult hworld hbytes
  obtain rfl : result' = result := hresult
  obtain rfl : w'' = w' := hworld
  -- a failure leaves what it likes in the buffer, but then no bytes are answered
  refine ⟨new'.val, ?_⟩
  rcases result' with error | _
  · rfl
  · obtain rfl : new' = new := hbytes rfl
    rfl

end Overlooks

theorem Host.buffered_related {h : Host ω} {session : Session} {fill : Filler ω}
    (hc : fill.Covers session.layout.paletteSize)
    (hp : h.readPalette session.layout.paletteSize = fill.onBlank session.layout.paletteSize) :
    (h.buffered fill).Related h Overlooks session.Makes where
  composes := Overlooks.composes
  call call hcall := by
    cases call with
    | readPalette size =>
      rcases hcall with hasks | ⟨resource, he⟩
      · obtain rfl : size = session.layout.paletteSize := hasks
        change Overlooks (Buffered.inPlace fill _) (h.readPalette _)
        rw [hp]
        exact .inPlace hc
      · cases he
    | _ => exact .onWorld _
  log line := .onWorld _

def Step.buffered : Step ω → Step (Buffered ω)
  | read patience => .read patience
  | close => .close
  | drift change => .drift fun s ↦ { s with world := change s.world }

theorem Step.buffered_related (step : Step ω) : Step.Related Overlooks step.buffered step := by
  cases step with
  | read patience => exact .read patience
  | close => exact .close
  | drift change => exact .drift fun w buffer ↦ ⟨buffer, rfl⟩

theorem Session.outcomes_buffered {h : Host ω} {session : Session} {fill : Filler ω}
    (hc : fill.Covers session.layout.paletteSize)
    (hp : h.readPalette session.layout.paletteSize = fill.onBlank session.layout.paletteSize)
    (steps : List (Step ω)) (w : ω) (buffer : ByteArray) :
    (session.outcomes (h.buffered fill) (steps.map Step.buffered) ⟨w, buffer⟩).1 =
      (session.outcomes h steps w).1 := by
  obtain ⟨buffer', hrun⟩ :=
    outcomes_related (Host.buffered_related hc hp) (Step.related_map Step.buffered_related) w buffer
  rw [hrun]

end ScreenCapture

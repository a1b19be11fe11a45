import ScreenCapture.Proofs.Run

namespace ScreenCapture

variable {ω α : Type}

structure Event where
  call : Call
  succeeded : Bool
deriving DecidableEq, Repr

/-- A world with the calls that were made to it, the latest one last. -/
structure Traced (ω : Type) where
  world : ω
  events : List Event

namespace Traced

def onWorld (act : StateM ω α) : StateM (Traced ω) α := fun s ↦
  let (a, world) := act s.world
  (a, { s with world })

def call (call : Call) (act : StateM ω α) : StateM (Traced ω) α := fun s ↦
  let (a, world) := act s.world
  (a, ⟨world, s.events ++ [⟨call, true⟩]⟩)

def attempt (call : Call) (act : Attempt ω α) : Attempt (Traced ω) α := fun s ↦
  let (result, world) := act s.world
  (result, ⟨world, s.events ++ [⟨call, result.isOk⟩]⟩)

end Traced

open Traced in
def Host.traced (h : Host ω) : Host (Traced ω) where
  monitors := attempt .monitors h.monitors
  virtualScreen := attempt .virtualScreen h.virtualScreen
  findWindow title := attempt (.findWindow title) (h.findWindow title)
  windowRect window := attempt (.windowRect window) (h.windowRect window)
  clientRect window := attempt (.clientRect window) (h.clientRect window)
  openSource handle := attempt (.openSource handle) (h.openSource handle)
  createOutline rect := attempt (.createOutline rect) (h.createOutline rect)
  pumpOutline := call .pumpOutline h.pumpOutline
  release resource := call (.release resource) (h.release resource)
  depth := call .depth h.depth
  deviceScale := call .deviceScale h.deviceScale
  allocateSurface layout := attempt (.allocateSurface layout) (h.allocateSurface layout)
  blit rect := attempt (.blit rect) (h.blit rect)
  readPalette size := attempt (.readPalette size) (h.readPalette size)
  pixels := attempt .pixels h.pixels
  pointer := attempt .pointer h.pointer
  drawPointer point := attempt (.drawPointer point) (h.drawPointer point)
  now := call .now h.now
  sleep micros := call (.sleep micros) (h.sleep micros)
  timer := call .timer h.timer
  log line := onWorld (h.log line)

/-- On a world that remembers its calls `act` does what `act'` does on the world itself, whatever
was remembered before, and all that it adds to the memory are calls in `kept`. -/
def Records (kept : Call → Prop) ⦃α : Type⦄ (act : StateM (Traced ω) α) (act' : StateM ω α) :
    Prop :=
  ∀ w, ∃ made : List Event, (∀ event ∈ made, kept event.call) ∧
    ∀ events, act ⟨w, events⟩ = ((act' w).1, ⟨(act' w).2, events ++ made⟩)

variable {kept : Call → Prop}

theorem Records.composes : Composes (Records (ω := ω) kept) where
  pure a w := ⟨[], by simp, fun events ↦ by rw [List.append_nil]; rfl⟩
  bind {α β act act' next next'} hfirst hnext w := by
    obtain ⟨made, hmade, hact⟩ := hfirst w
    have hn := hnext ⟨w, []⟩
    rw [hact []] at hn
    obtain ⟨made', hmade', hrest⟩ := hn (act' w).2
    refine ⟨made ++ made', ?_, fun events ↦ ?_⟩
    · intro event he
      rcases List.mem_append.mp he with hm | hm
      · exact hmade event hm
      · exact hmade' event hm
    · change next (act ⟨w, events⟩).1 (act ⟨w, events⟩).2 = _
      rw [hact events, ← List.append_assoc]
      exact hrest (events ++ made)

theorem Records.attempt {call : Call} (hc : kept call) (act : Attempt ω α) :
    Records kept (Traced.attempt call act) act :=
  fun w ↦ ⟨[⟨call, (act w).1.isOk⟩], by simpa using hc, fun _ ↦ rfl⟩

theorem Records.call {call : Call} (hc : kept call) (act : StateM ω α) :
    Records kept (Traced.call call act) act :=
  fun _ ↦ ⟨[⟨call, true⟩], by simpa using hc, fun _ ↦ rfl⟩

theorem Host.traced_related (h : Host ω) {calls : Call → Prop}
    (hc : ∀ call, calls call → kept call) : h.traced.Related h (Records kept) calls where
  composes := Records.composes
  call call hcall := by
    have hkept := hc call hcall
    cases call with
    | pumpOutline | release | depth | deviceScale | now | sleep | timer => exact .call hkept _
    | monitors | virtualScreen | findWindow | windowRect | clientRect | openSource | createOutline
    | allocateSurface | blit | readPalette | pixels | pointer | drawPointer =>
      exact .attempt hkept _
  log line w := ⟨[], by simp, fun events ↦ by rw [List.append_nil]; rfl⟩

def Step.traced : Step ω → Step (Traced ω)
  | read patience => .read patience
  | close => .close
  | drift change => .drift fun s ↦ { s with world := change s.world }

theorem Step.traced_related (step : Step ω) : Step.Related (Records kept) step.traced step := by
  cases step with
  | read patience => exact .read patience
  | close => exact .close
  | drift change =>
    exact .drift fun w ↦ ⟨[], by simp, fun events ↦ by rw [List.append_nil]; rfl⟩

theorem Step.close_notMem_traced {steps : List (Step ω)} (hs : .close ∉ steps) :
    .close ∉ steps.map Step.traced := by
  intro hm
  obtain ⟨step, hmem, he⟩ := List.mem_map.mp hm
  cases step with
  | close => exact hs hmem
  | read | drift => cases he

/-- A resource that comes into a session's hands or leaves them. -/
inductive Handover
  | acquired (resource : Resource)
  | released (resource : Resource)
deriving DecidableEq, Repr

def Event.handover? : Event → Option Handover
  | ⟨.openSource _, true⟩ => some (.acquired .source)
  | ⟨.allocateSurface _, true⟩ => some (.acquired .surface)
  | ⟨.createOutline _, true⟩ => some (.acquired .outline)
  | ⟨.release resource, _⟩ => some (.released resource)
  | _ => none

namespace Traced

def handovers (s : Traced ω) : List Handover := s.events.filterMap Event.handover?

theorem handovers_add (world : ω) (events : List Event) (event : Event) :
    (Traced.mk world (events ++ [event])).handovers =
      (Traced.mk world events).handovers ++ event.handover?.toList := by
  simp only [handovers, List.filterMap_append]
  cases he : event.handover? <;> simp [he]

end Traced

def Call.LeavesHands : Call → Prop
  | openSource _ | allocateSurface _ | createOutline _ | release _ => False
  | _ => True

theorem Call.LeavesHands.handover?_eq_none {call : Call} (hc : call.LeavesHands)
    (succeeded : Bool) : Event.handover? ⟨call, succeeded⟩ = none := by
  cases call <;> first | rfl | cases hc

theorem Records.handovers_eq {act : StateM (Traced ω) α} {act' : StateM ω α}
    (hr : Records Call.LeavesHands act act') (s : Traced ω) :
    (act s).2.handovers = s.handovers := by
  obtain ⟨made, hmade, hact⟩ := hr s.world
  have hnone : made.filterMap Event.handover? = [] :=
    List.filterMap_eq_nil_iff.mpr fun event he ↦
      (hmade event he).handover?_eq_none event.succeeded
  rw [show act s = _ from hact s.events]
  simp only [Traced.handovers, List.filterMap_append, hnone, List.append_nil]

namespace Session

variable {h : Host ω}

def pumps (session : Session) : List Event :=
  if .outline ∈ session.held then [⟨.pumpOutline, true⟩] else []

theorem pump_traced (session : Session) (w : ω) (events : List Event) :
    session.pump h.traced ⟨w, events⟩ = ((), ⟨(session.pump h w).2, events ++ session.pumps⟩) := by
  unfold pump pumps
  split
  · rfl
  · rw [List.append_nil]
    rfl

theorem now_traced {w w' : ω} {now : Int} (hn : h.now w = (now, w')) (events : List Event) :
    h.traced.now ⟨w, events⟩ = (now, ⟨w', events ++ [⟨.now, true⟩]⟩) := by
  change ((h.now w).1, Traced.mk (h.now w).2 (events ++ [⟨.now, true⟩])) = _
  rw [hn]

end Session

theorem Call.IsQuery.leavesHands (call : Call) (hq : call.IsQuery) : call.LeavesHands := by
  cases call <;> trivial

theorem Session.Asks.leavesHands {session : Session} (call : Call) (ha : session.Asks call) :
    call.LeavesHands := by
  cases call <;> trivial

end ScreenCapture

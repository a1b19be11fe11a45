import ScreenCapture.Proofs.Action

namespace ScreenCapture

variable {ω ω' : Type}

namespace Call

def Answer : Call → Type
  | monitors => Result (List Monitor)
  | virtualScreen => Result Rect
  | findWindow _ => Result (Option WindowId)
  | windowRect _ | clientRect _ => Result Rect
  | openSource _ | createOutline _ | allocateSurface _ | blit _ | drawPointer _ => Result Unit
  | pumpOutline | release _ | sleep _ => Unit
  | depth => Nat
  | deviceScale => Scale
  | readPalette size => Result (Bytes size)
  | pixels => Result ByteArray
  | pointer => Result PointerState
  | now | timer => Int

end Call

def Host.make (h : Host ω) : (call : Call) → StateM ω call.Answer
  | .monitors => h.monitors
  | .virtualScreen => h.virtualScreen
  | .findWindow title => h.findWindow title
  | .windowRect window => h.windowRect window
  | .clientRect window => h.clientRect window
  | .openSource handle => h.openSource handle
  | .createOutline rect => h.createOutline rect
  | .pumpOutline => h.pumpOutline
  | .release resource => h.release resource
  | .depth => h.depth
  | .deviceScale => h.deviceScale
  | .allocateSurface layout => h.allocateSurface layout
  | .blit rect => h.blit rect
  | .readPalette size => h.readPalette size
  | .pixels => h.pixels
  | .pointer => h.pointer
  | .drawPointer point => h.drawPointer point
  | .now => h.now
  | .sleep micros => h.sleep micros
  | .timer => h.timer

/-- `P` holds between the two hosts in each of `calls` and in each log line. -/
structure Host.Related (h : Host ω) (h' : Host ω')
    (P : ∀ ⦃α : Type⦄, StateM ω α → StateM ω' α → Prop) (calls : Call → Prop) : Prop where
  composes : Composes P
  call : ∀ call, calls call → P (h.make call) (h'.make call)
  log : ∀ line, P (h.log line) (h'.log line)

theorem Host.Related.mono {h : Host ω} {h' : Host ω'}
    {P : ∀ ⦃α : Type⦄, StateM ω α → StateM ω' α → Prop} {calls calls' : Call → Prop}
    (hr : h.Related h' P calls) (hc : ∀ call, calls' call → calls call) :
    h.Related h' P calls' where
  composes := hr.composes
  call call hcall := hr.call call (hc call hcall)
  log := hr.log

/-- What a session asks for before it acquires anything, and between its acquisitions. -/
def Call.IsQuery : Call → Prop
  | monitors | virtualScreen | findWindow _ | windowRect _ | clientRect _ | depth | deviceScale
  | now => True
  | _ => False

def Call.Opens (call : Call) : Prop :=
  call.IsQuery ∨ match call with
    | openSource _ | allocateSurface _ | createOutline _ | release _ => True
    | _ => False

/-- What a read may call. -/
def Session.Asks (session : Session) : Call → Prop
  | .pumpOutline | .now | .sleep _ | .timer | .pointer | .windowRect _ | .drawPointer _
  | .pixels => True
  | .blit rect => rect = session.target.captureRect
  | .readPalette size => size = session.layout.paletteSize
  | _ => False

/-- What a tick asks and draws for the pointer. -/
def Call.IsPointers : Call → Prop
  | pointer | windowRect _ | drawPointer _ => True
  | _ => False

instance : (call : Call) → Decidable call.IsPointers
  | .pointer | .windowRect _ | .drawPointer _ => .isTrue trivial
  | .monitors | .virtualScreen | .findWindow _ | .clientRect _ | .openSource _ | .createOutline _
  | .pumpOutline | .release _ | .depth | .deviceScale | .allocateSurface _ | .blit _
  | .readPalette _ | .pixels | .now | .sleep _ | .timer => .isFalse id

/-- What the pointer has written to the log: where it is, and the first failure to draw it. -/
def LogLine.IsPointers (line : LogLine) : Prop := line.severity = .trace ∨ line.severity = .warn

instance (line : LogLine) : Decidable line.IsPointers := inferInstanceAs (Decidable (_ ∨ _))

def Session.Copies (session : Session) : Call → Prop
  | .pumpOutline | .now | .sleep _ | .timer => True
  | .blit rect => rect = session.target.captureRect
  | .readPalette size => size = session.layout.paletteSize
  | _ => False

theorem Session.Asks.of_copies {session : Session} {call : Call} (hc : session.Copies call) :
    session.Asks call := by
  cases call <;> first | exact hc | cases hc

theorem Session.Asks.of_isPointers {session : Session} {call : Call} (hc : call.IsPointers) :
    session.Asks call := by
  cases call <;> first | exact hc | cases hc

/-- What a session may call from then on, until it is dropped. -/
def Session.Makes (session : Session) (call : Call) : Prop :=
  session.Asks call ∨ ∃ resource, call = .release resource

variable {h : Host ω} {h' : Host ω'} {P : ∀ ⦃α : Type⦄, StateM ω α → StateM ω' α → Prop}

namespace Host

variable (hr : h.Related h' P Call.IsQuery)
include hr

theorem findTarget_related (target : CaptureTarget) :
    P (h.findTarget target).run (h'.findTarget target).run := by
  have hP := hr.composes
  cases target with
  | desktop => exact hP.succeed _
  | window title =>
    refine hP.andThen (hr.call (.findWindow title) trivial) fun found ↦ ?_
    cases found with
    | none => exact hP.fail _
    | some window => exact hP.succeed _

theorem resolveTopology_related : P h.resolveTopology.run h'.resolveTopology.run := by
  have hP := hr.composes
  refine hP.andThen (hr.call .monitors trivial) fun monitors ↦ ?_
  refine hP.andThen (hP.result _) fun topology ↦ ?_
  refine hP.andThen (hP.forM fun _ ↦ hP.lift (hr.log _)) fun _ ↦ ?_
  exact hP.succeed _

theorem scaleOfWindow_related (topology : Topology) (rect : Rect) :
    P (h.scaleOfWindow topology rect).run (h'.scaleOfWindow topology rect).run := by
  have hP := hr.composes
  unfold scaleOfWindow
  split
  · exact hP.succeed _
  · refine hP.andThen (hP.lift (hr.log _)) fun _ ↦ ?_
    split
    · exact hP.succeed _
    · exact hP.fail _

theorem captureArea_related (topology : Topology) (handle : TargetHandle) :
    P (h.captureArea topology handle).run (h'.captureArea topology handle).run := by
  have hP := hr.composes
  cases handle with
  | desktop =>
    refine hP.andThen (hP.embed (hr.call .virtualScreen trivial)) fun logical ↦ ?_
    refine hP.andThen (hP.result _) fun physical ↦ ?_
    exact hP.andThen (hP.lift (hr.log _)) fun _ ↦ hP.succeed _
  | window window =>
    refine hP.andThen (hP.embed (hr.call (.windowRect window) trivial)) fun rect ↦ ?_
    refine hP.andThen (hP.embed (scaleOfWindow_related hr topology rect)) fun scale ↦ ?_
    refine hP.andThen (hP.embed (hr.call (.clientRect window) trivial)) fun client ↦ ?_
    exact hP.andThen (hP.lift (hr.log _)) fun _ ↦ hP.succeed _

theorem resolveTarget_related (topology : Topology) (handle : TargetHandle)
    (request : CaptureRequest) (depth : Nat) :
    P (h.resolveTarget topology handle request depth).run
      (h'.resolveTarget topology handle request depth).run := by
  have hP := hr.composes
  refine hP.andThen (captureArea_related hr topology handle) fun (area, scale) ↦ ?_
  refine hP.andThen (hP.result _) fun rect ↦ ?_
  exact hP.andThen (hP.lift (hr.log _)) fun _ ↦ hP.succeed _

end Host

namespace Session

theorem await_zero (pacer : Pacer) (nonblocking : Bool) :
    await h pacer nonblocking 0 = (do
      let now ← h.now
      let schedule := pacer.schedule now
      if schedule.IsDue then return .due schedule now
      if nonblocking then return .refused
      return .unfinished) := rfl

theorem await_succ (pacer : Pacer) (nonblocking : Bool) (patience : Nat) :
    await h pacer nonblocking (patience + 1) = (do
      let now ← h.now
      let schedule := pacer.schedule now
      if schedule.IsDue then return .due schedule now
      if nonblocking then return .refused
      h.sleep schedule.delay
      await h pacer nonblocking patience) := rfl

section

variable (hr : h.Related h' P Call.IsQuery)
include hr

theorem settle_related (options : CaptureOptions) (handle : TargetHandle) :
    P (settle h options handle) (settle h' options handle) := by
  have hP := hr.composes
  unfold settle
  split
  · exact hP.bind (hr.log _) fun _ ↦ hP.pure _
  · exact hP.pure _

theorem placementOf_related (resolved : ResolvedTarget) :
    P (placementOf h resolved) (placementOf h' resolved) := by
  have hP := hr.composes
  unfold placementOf
  split
  · exact hP.bind (hr.call .deviceScale trivial) fun _ ↦ hP.pure _
  · exact hP.pure _

theorem setUp_related (options : CaptureOptions) (topology : Topology) (target : ResolvedTarget)
    (layout : BitmapLayout) :
    P (setUp h options topology target layout) (setUp h' options topology target layout) := by
  have hP := hr.composes
  have hoverlay : P (overlayOf h options target) (overlayOf h' options target) := by
    unfold overlayOf
    split
    · exact hP.bind (placementOf_related hr target) fun _ ↦ hP.pure _
    · exact hP.pure _
  refine hP.bind hoverlay fun _ ↦ hP.bind (hr.call .now trivial) fun _ ↦ ?_
  exact hP.bind (hr.log _) fun _ ↦ hP.pure _

end

/-- Two hosts that are related in what an opening may call are related in the opening. -/
theorem start_related (hr : h.Related h' P Call.Opens) (options : CaptureOptions)
    (target : CaptureTarget) : P (start h options target).run (start h' options target).run := by
  have hP := hr.composes
  have hquery : h.Related h' P Call.IsQuery := hr.mono fun _ ↦ .inl
  have hholding {resource : Resource} {act : Procedure ω Session} {act' : Procedure ω' Session}
      (ha : P act.run act'.run) : P (h.holding resource act).run (h'.holding resource act').run :=
    hP.orElse ha fun failure ↦ hP.andThen (hP.lift (hr.call (.release resource) (.inr trivial)))
      fun _ ↦ hP.fail failure
  refine hP.andThen (hP.embed (Host.findTarget_related hquery target)) fun handle ↦ ?_
  refine hP.andThen (hP.lift (settle_related hquery options handle)) fun settled ↦ ?_
  refine hP.andThen (hP.embed (hr.call (.openSource handle) (.inr trivial))) fun _ ↦ hholding ?_
  refine hP.andThen (hP.lift (hr.call .depth (.inl trivial))) fun depth ↦ ?_
  refine hP.andThen (hP.embed (Host.resolveTopology_related hquery)) fun topology ↦ ?_
  refine hP.andThen (Host.resolveTarget_related hquery _ _ _ _) fun resolved ↦ ?_
  refine hP.andThen (hP.result _) fun layout ↦ ?_
  refine hP.andThen (hP.embed (hr.call (.allocateSurface layout) (.inr trivial))) fun _ ↦
    hholding ?_
  have hsetUp := hP.lift (ε := Failure CaptureError)
    (setUp_related hquery settled topology resolved layout)
  split
  · exact hP.andThen (hP.embed (hr.call (.createOutline _) (.inr trivial))) fun _ ↦ hsetUp
  · exact hsetUp

variable {session : Session}

theorem close_related (hr : h.Related h' P fun call ↦ ∃ resource, call = .release resource) :
    P (session.close h) (session.close h') := by
  have hP := hr.composes
  have hrelease (held : List Resource) : P (held.forM h.release) (held.forM h'.release) := by
    induction held with
    | nil => exact hP.pure _
    | cons resource held ih =>
      exact hP.bind (hr.call (.release resource) ⟨resource, rfl⟩) fun _ ↦ ih
  unfold close
  split
  · exact hP.pure _
  · exact hP.bind (hrelease _) fun _ ↦ hP.bind (hr.log _) fun _ ↦ hP.pure _

section

variable (hr : h.Related h' P session.Copies)
include hr

theorem pump_related : P (session.pump h) (session.pump h') := by
  unfold pump
  split
  · exact hr.call .pumpOutline trivial
  · exact hr.composes.pure _

theorem await_related (pacer : Pacer) (nonblocking : Bool) (patience : Nat) :
    P (await h pacer nonblocking patience) (await h' pacer nonblocking patience) := by
  have hP := hr.composes
  induction patience with
  | zero =>
    rw [await_zero, await_zero]
    refine hP.bind (hr.call .now trivial) fun w ↦ ?_
    dsimp only
    split
    · exact hP.pure _
    · split <;> exact hP.pure _
  | succ patience ih =>
    rw [await_succ, await_succ]
    refine hP.bind (hr.call .now trivial) fun w ↦ ?_
    dsimp only
    split
    · exact hP.pure _
    · split
      · exact hP.pure _
      · exact hP.bind (hr.call (.sleep _) trivial) fun _ ↦ ih

theorem blit_related : P (session.blit h).run (session.blit h').run := by
  have hP := hr.composes
  refine hP.orElse (hr.call (.blit _) rfl) fun _ ↦ ?_
  exact hP.andThen (hP.lift (hr.log _)) fun _ ↦ hP.fail _

end

section

variable (hP : Composes P) (hc : ∀ call, call.IsPointers → P (h.make call) (h'.make call))
include hP hc

theorem position_related (topology : Topology) (rect : Rect) (pointer : PointerState)
    (placement : Placement) :
    P (PointerOverlay.position h topology rect pointer placement).run
      (PointerOverlay.position h' topology rect pointer placement).run := by
  cases placement with
  | desktop scale => exact hP.result _
  | window window scale =>
    exact hP.andThen (hP.adapt (hc (.windowRect window) trivial) _) fun _ ↦ hP.result _

variable (hl : ∀ line, line.IsPointers → P (h.log line) (h'.log line))
include hl

theorem attempt_related (placement : Placement) (topology : Topology) (rect : Rect) :
    P (PointerOverlay.attempt h placement topology rect).run
      (PointerOverlay.attempt h' placement topology rect).run := by
  refine hP.andThen (hP.adapt (hc .pointer trivial) _) fun pointer ↦ ?_
  split
  · refine hP.andThen (position_related hP hc topology rect pointer placement) fun point ↦ ?_
    refine hP.andThen (hP.lift (hl _ (.inl rfl))) fun _ ↦ ?_
    split
    · exact hP.adapt (hc (.drawPointer point) trivial) _
    · exact hP.succeed _
  · exact hP.succeed _

theorem draw_related (overlay : PointerOverlay) (topology : Topology) (rect : Rect) :
    P (overlay.draw h topology rect) (overlay.draw h' topology rect) := by
  refine hP.bind (attempt_related hP hc hl _ _ _) fun w ↦ ?_
  split
  · exact hP.pure _
  · exact hP.pure _
  · split
    · exact hP.pure _
    · exact hP.bind (hl _ (.inr rfl)) fun _ ↦ hP.pure _

theorem drawPointer_related : P (session.drawPointer h) (session.drawPointer h') := by
  unfold drawPointer
  split
  · exact hP.pure _
  · exact hP.bind (draw_related hP hc hl _ _ _) fun _ ↦ hP.pure _

end

theorem encode_related (hr : h.Related h' P session.Asks) :
    P (session.encode h).run (session.encode h').run := by
  have hP := hr.composes
  have hrest (palette : ByteArray) : P (do
      let pixels ← h.pixels
      liftM (session.layout.encode palette pixels) : Attempt ω ByteArray).run (do
      let pixels ← h'.pixels
      liftM (session.layout.encode palette pixels) : Attempt ω' ByteArray).run :=
    hP.andThen (hr.call .pixels trivial) fun _ ↦ hP.result _
  unfold encode
  split
  · exact hP.andThen (hP.succeed _) fun _ ↦ hrest _
  · exact hP.andThen (hr.call (.readPalette _) rfl) fun _ ↦ hrest _

end Session

end ScreenCapture

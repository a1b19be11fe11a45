import ScreenCapture.Proofs.Run
import ScreenCapture.Proofs.Tick

namespace ScreenCapture

variable {ω ω' ε α β γ δ : Type}

def Matches (R : ω → ω' → Prop) (Q : α → β → Prop) (act : StateM ω α) (act' : StateM ω' β) : Prop :=
  ∀ w w', R w w' → Q (act w).1 (act' w').1 ∧ R (act w).2 (act' w').2

inductive Result.Alike (Q : α → β → Prop) : Except ε α → Except ε β → Prop
  | ok {a : α} {b : β} : Q a b → Result.Alike Q (.ok a) (.ok b)
  | error (error : ε) : Result.Alike Q (.error error) (.error error)

namespace Matches

variable {R : ω → ω' → Prop} {Q : α → β → Prop} {Q' : γ → δ → Prop}

theorem pure {a : α} {b : β} (h : Q a b) :
    Matches R Q (Pure.pure a : StateM ω α) (Pure.pure b : StateM ω' β) := fun _ _ hw ↦ ⟨h, hw⟩

theorem bind {act : StateM ω α} {act' : StateM ω' β} {next : α → StateM ω γ}
    {next' : β → StateM ω' δ} (h : Matches R Q act act')
    (hn : ∀ a b, Q a b → Matches R Q' (next a) (next' b)) :
    Matches R Q' (act >>= next) (act' >>= next') := by
  intro w w' hw
  obtain ⟨hanswer, hafter⟩ := h w w' hw
  exact hn _ _ hanswer _ _ hafter

theorem lift {act : StateM ω α} {act' : StateM ω' β} (h : Matches R Q act act') :
    Matches R (Result.Alike Q) (liftM act : ExceptT ε (StateM ω) α).run
      (liftM act' : ExceptT ε (StateM ω') β).run := by
  change Matches R _ (act >>= fun a ↦ return Except.ok a) (act' >>= fun b ↦ return Except.ok b)
  exact h.bind fun a b hq ↦ .pure (.ok hq)

variable {act : ExceptT ε (StateM ω) α} {act' : ExceptT ε (StateM ω') β}

theorem andThen {next : α → ExceptT ε (StateM ω) γ} {next' : β → ExceptT ε (StateM ω') δ}
    (h : Matches R (Result.Alike Q) act.run act'.run)
    (hn : ∀ a b, Q a b → Matches R (Result.Alike Q') (next a).run (next' b).run) :
    Matches R (Result.Alike Q') (act >>= next).run (act' >>= next').run := by
  change Matches R _ (act.run >>= ExceptT.bindCont next) (act'.run >>= ExceptT.bindCont next')
  refine h.bind fun result result' hr ↦ ?_
  cases hr with
  | ok hq => exact hn _ _ hq
  | error error => exact .pure (.error error)

theorem orElse {handler : ε → ExceptT ε (StateM ω) α} {handler' : ε → ExceptT ε (StateM ω') β}
    (h : Matches R (Result.Alike Q) act.run act'.run)
    (hn : ∀ error, Matches R (Result.Alike Q) (handler error).run (handler' error).run) :
    Matches R (Result.Alike Q) (tryCatch act handler).run (tryCatch act' handler').run := by
  rw [Attempt.run_tryCatch, Attempt.run_tryCatch]
  refine h.bind fun result result' hr ↦ ?_
  cases hr with
  | ok hq => exact .pure (.ok hq)
  | error error => exact hn error

end Matches

theorem Agrees.alike {R : ω → ω' → Prop} {act : ExceptT ε (StateM ω) α}
    {act' : ExceptT ε (StateM ω') α} (h : Agrees R act.run act'.run) :
    Matches R (Result.Alike Eq) act.run act'.run := by
  intro w w' hw
  obtain ⟨hanswer, hafter⟩ := h w w' hw
  refine ⟨?_, hafter⟩
  rw [hanswer]
  rcases (act'.run w').1 with error | a
  · exact .error error
  · exact .ok rfl

/-- Unless one of the two operations breaks off, which is told by its answer, they answer alike in
related worlds and leave related worlds. -/
def MatchesUnless (off : α → Prop) (R : ω → ω' → Prop) (Q : α → α → Prop) (act : StateM ω α)
    (act' : StateM ω' α) : Prop :=
  ∀ w w', R w w' → ¬ off (act w).1 → ¬ off (act' w').1 →
    Q (act w).1 (act' w').1 ∧ R (act w).2 (act' w').2

section

variable {R : ω → ω' → Prop} {off : γ → Prop} {Q' : γ → γ → Prop}

theorem Matches.unless {act : StateM ω γ} {act' : StateM ω' γ} (h : Matches R Q' act act') :
    MatchesUnless off R Q' act act' := fun w w' hw _ _ ↦ h w w' hw

theorem Matches.bindUnless {Q : α → β → Prop} {act : StateM ω α} {act' : StateM ω' β}
    {next : α → StateM ω γ} {next' : β → StateM ω' γ} (h : Matches R Q act act')
    (hn : ∀ a b, Q a b → MatchesUnless off R Q' (next a) (next' b)) :
    MatchesUnless off R Q' (act >>= next) (act' >>= next') := by
  intro w w' hw hon hon'
  obtain ⟨hanswer, hafter⟩ := h w w' hw
  exact hn _ _ hanswer _ _ hafter hon hon'

theorem MatchesUnless.bind {off₁ : α → Prop} {Q : α → α → Prop} {act : StateM ω α}
    {act' : StateM ω' α} {next : α → StateM ω γ} {next' : α → StateM ω' γ}
    (h : MatchesUnless off₁ R Q act act') (ho : ∀ a, off₁ a → Gives (next a) off)
    (ho' : ∀ a, off₁ a → Gives (next' a) off)
    (hn : ∀ a b, Q a b → MatchesUnless off R Q' (next a) (next' b)) :
    MatchesUnless off R Q' (act >>= next) (act' >>= next') := by
  intro w w' hw hon hon'
  obtain ⟨hanswer, hafter⟩ := h w w' hw (fun hoff ↦ hon (ho _ hoff _)) fun hoff ↦
    hon' (ho' _ hoff _)
  exact hn _ _ hanswer _ _ hafter hon hon'

end

/-- Whatever `act` does to the first of two related worlds, the worlds stay related. -/
def Unseen (R : ω → ω' → Prop) (act : StateM ω α) : Prop := ∀ w w', R w w' → R (act w).2 w'

theorem Unseen.composes (R : ω → ω' → Prop) :
    Composes fun ⦃α : Type⦄ (act _ : StateM ω α) ↦ Unseen R act where
  pure _ _ _ hw := hw
  bind hact hnext w w' hw := hnext w _ w' (hact w w' hw)

/-- Neither what is done to the first world nor what is done to the second one shows. -/
structure Apart (R : ω → ω' → Prop) (act : StateM ω α) (act' : StateM ω' β) : Prop where
  left : Unseen R act
  right : Unseen (flip R) act'

theorem Apart.matches {R : ω → ω' → Prop} {Q : α → β → Prop} {act : StateM ω α} {act' : StateM ω' β}
    (h : Apart R act act') (hq : ∀ w w', Q (act w).1 (act' w').1) : Matches R Q act act' :=
  fun w w' hw ↦ ⟨hq w w', h.right w' _ (h.left w w' hw)⟩

/-- What a session calls whether or not it draws the pointer, but for the pixels. -/
def Call.IsShared : Call → Prop
  | pumpOutline | release _ | blit _ | readPalette _ | now | sleep _ | timer => True
  | _ => False

/-- Displays and clocks that differ in the pointer and, by `Q`, in the pixels that it is drawn on.
Nobody sees what is asked and drawn for a pointer, or what is logged of it. -/
structure Host.Twins (h : Host ω) (h' : Host ω') (R : ω → ω' → Prop)
    (Q : ByteArray → ByteArray → Prop) : Prop where
  shared : ∀ call : Call, call.IsShared → Agrees R (h.make call) (h'.make call)
  pixels : Matches R (Result.Alike Q) h.pixels.run h'.pixels.run
  pointers : ∀ call : Call, call.IsPointers → Apart R (h.make call) (h'.make call)
  log : ∀ line, Agrees R (h.log line) (h'.log line)
  pointerLog : ∀ line : LogLine, line.IsPointers → Apart R (h.log line) (h'.log line)

/-- The same headers and colour table, and pixels behind them that are related by `Q`. -/
def BitmapLayout.DataAlike (layout : BitmapLayout) (Q : ByteArray → ByteArray → Prop)
    (data data' : ByteArray) : Prop :=
  ∃ head pixels pixels', head.size = layout.headerSize ∧ data = head ++ pixels ∧
    data' = head ++ pixels' ∧ Q pixels pixels'

theorem BitmapLayout.encode_alike {layout : BitmapLayout} {Q : ByteArray → ByteArray → Prop}
    {palette pixels pixels' : ByteArray} (hp : palette.size = layout.paletteSize)
    (hq : Q pixels pixels') (hsize : pixels.size = pixels'.size) :
    Result.Alike (layout.DataAlike Q) (layout.encode palette pixels)
      (layout.encode palette pixels') := by
  by_cases hx : pixels.size = layout.frameSize
  · rw [encode_of_sizes hp hx, encode_of_sizes hp (hsize ▸ hx)]
    refine .ok ⟨layout.headers ++ palette, pixels, pixels', ?_, rfl, rfl, hq⟩
    rw [ByteArray.size_append, size_headers, hp, headerSize_eq]
  · rw [encode_of_pixels_ne hp hx, encode_of_pixels_ne hp (hsize ▸ hx), hsize]
    exact .error _

structure Frame.Alike (Q : ByteArray → ByteArray → Prop) (frame frame' : Frame) : Prop where
  layout_eq : frame.layout = frame'.layout
  sequence_eq : frame.sequence = frame'.sequence
  pts_eq : frame.pts = frame'.pts
  takenAt_eq : frame.takenAt = frame'.takenAt
  duration_eq : frame.duration = frame'.duration
  data_alike : frame.layout.DataAlike Q frame.data frame'.data

inductive Reading.Alike (Q : ByteArray → ByteArray → Prop) : Reading → Reading → Prop
  | frame {frame frame' : Frame} : frame.Alike Q frame' →
    Reading.Alike Q (.frame frame) (.frame frame')
  | failed (error : CaptureError) : Reading.Alike Q (.failed error) (.failed error)
  | unfinished : Reading.Alike Q .unfinished .unfinished

namespace Session

def pointing (session : Session) (overlay : Option PointerOverlay) (shown : Bool) : Session :=
  { session with overlay, options := { session.options with drawMouse := shown } }

/-- The same session, up to what it has for the pointer. -/
def Alike (session session' : Session) : Prop :=
  session.pointing none false = session'.pointing none false

theorem Alike.exists_eq {session session' : Session} (hs : session.Alike session') :
    ∃ overlay shown, session' = session.pointing overlay shown := by
  refine ⟨session'.overlay, session'.options.drawMouse, ?_⟩
  have hbare : (session.pointing none false).pointing session'.overlay session'.options.drawMouse =
      (session'.pointing none false).pointing session'.overlay session'.options.drawMouse :=
    congrArg (fun s ↦ s.pointing session'.overlay session'.options.drawMouse) hs
  exact hbare.symm

theorem Alike.reporting {session session' : Session} (hs : session.Alike session')
    (reported reported' : Bool) : (session.reporting reported).Alike (session'.reporting reported') :=
  hs

variable {h : Host ω} {h' : Host ω'} {R : ω → ω' → Prop} {Q : ByteArray → ByteArray → Prop}
  {session session' : Session}

section

variable (ht : h.Twins h' R Q)
include ht

theorem copies_related : h.Related h' (Agrees R) session.Copies where
  composes := Agrees.composes R
  call call hc := ht.shared call (by cases call <;> first | exact hc.elim | trivial)
  log := ht.log

variable (hs : session.Alike session')
include hs

theorem drawPointer_matches :
    Matches R (fun drawn drawn' ↦ ∀ after ∈ drawn, ∀ after' ∈ drawn', after.Alike after')
      (session.drawPointer h) (session'.drawPointer h') := by
  have hleft : Unseen R (session.drawPointer h) :=
    @drawPointer_related _ _ h h _ session (Unseen.composes R)
      (fun call hc ↦ (ht.pointers call hc).left) fun line hl ↦ (ht.pointerLog line hl).left
  have hright : Unseen (flip R) (session'.drawPointer h') :=
    @drawPointer_related _ _ h' h' _ session' (Unseen.composes (flip R))
      (fun call hc ↦ (ht.pointers call hc).right) fun line hl ↦ (ht.pointerLog line hl).right
  refine Apart.matches ⟨hleft, hright⟩ fun w w' after hafter after' hafter' ↦ ?_
  obtain ⟨reported, rfl⟩ := drawPointer_gives w after hafter
  obtain ⟨reported', rfl⟩ := drawPointer_gives w' after' hafter'
  exact hs.reporting reported reported'

theorem colours_matches : Matches R
    (Result.Alike fun palette palette' ↦ palette = palette' ∧
      palette.size = session.layout.paletteSize)
    (session.colours h).run (session'.colours h').run := by
  obtain ⟨overlay, shown, rfl⟩ := hs.exists_eq
  unfold colours pointing
  split
  · refine (ht.shared (.readPalette _) trivial).alike.andThen ?_
    rintro palette _ rfl
    exact .pure (.ok ⟨rfl, palette.property⟩)
  · next hd => exact .pure (.ok ⟨rfl, (session.layout.paletteSize_eq_zero_iff.mpr hd).symm⟩)

variable (hq : ∀ pixels pixels', Q pixels pixels' → pixels.size = pixels'.size)
include hq

theorem encode_matches :
    Matches R (Result.Alike (session.layout.DataAlike Q))
      (session.encode h).run (session'.encode h').run := by
  have hcolours := colours_matches ht hs
  obtain ⟨overlay, shown, rfl⟩ := hs.exists_eq
  rw [encode_eq, encode_eq]
  refine hcolours.andThen ?_
  rintro palette _ ⟨rfl, hpalette⟩
  refine Matches.andThen ht.pixels fun pixels pixels' hpixels ↦ ?_
  exact .pure (BitmapLayout.encode_alike hpalette hpixels (hq _ _ hpixels))

theorem tick_matches (schedule : Schedule) (now : Int) :
    MatchesUnless (fun (outcome, _) ↦ outcome = .error .overflow) R
      (fun (outcome, after) (outcome', after') ↦
        Result.Alike (Frame.Alike Q) outcome outcome' ∧ after.Alike after')
      (session.tick h schedule now) (session'.tick h' schedule now) := by
  have htimer : Agrees R h.timer h'.timer := ht.shared .timer trivial
  have hblit : Agrees R (session.blit h).run (session'.blit h').run := by
    obtain ⟨overlay, shown, rfl⟩ := hs.exists_eq
    exact blit_related (copies_related ht)
  refine Matches.bindUnless htimer ?_
  rintro started _ rfl
  refine hblit.alike.bindUnless fun copied copied' hcopied ↦ ?_
  cases hcopied with
  | error error => exact Matches.unless (.pure ⟨.error _, hs⟩)
  | ok _ =>
    refine (drawPointer_matches ht hs).bindUnless fun drawn drawn' hdrawn ↦ ?_
    rcases drawn with _ | drawn
    · exact fun _ _ _ hon _ ↦ absurd rfl hon
    rcases drawn' with _ | drawn'
    · exact fun _ _ _ _ hon ↦ absurd rfl hon
    have halike : drawn.Alike drawn' := hdrawn drawn rfl drawn' rfl
    refine (encode_matches ht halike hq).bindUnless fun encoded encoded' hencoded ↦ ?_
    obtain ⟨overlay, shown, rfl⟩ := halike.exists_eq
    refine Matches.unless ?_
    cases hencoded with
    | error error => exact .pure ⟨.error _, rfl⟩
    | @ok data data' hdata =>
      refine Matches.bind htimer ?_
      rintro takenAt _ rfl
      refine Matches.bind htimer ?_
      rintro ended _ rfl
      exact .pure ⟨.ok ⟨rfl, rfl, rfl, rfl, rfl, hdata⟩, rfl⟩

theorem read_matches (patience : Nat) :
    MatchesUnless (fun (reading, _) ↦ reading = .overflow) R
      (fun (reading, after) (reading', after') ↦
        reading.Alike Q reading' ∧ after.Alike after')
      (session.read h patience) (session'.read h' patience) := by
  have hcopies : h.Related h' (Agrees R) session.Copies := copies_related ht
  have htick := tick_matches ht hs hq
  obtain ⟨overlay, shown, rfl⟩ := hs.exists_eq
  have hclosed : (session.pointing overlay shown).IsClosed ↔ session.IsClosed := .rfl
  by_cases hc : session.IsClosed
  · rw [read, read, if_pos hc, if_pos (hclosed.mpr hc)]
    exact Matches.unless (.pure ⟨.failed .closed, rfl⟩)
  rw [read, read, if_neg hc, if_neg (hclosed.not.mpr hc)]
  refine Matches.bindUnless (pump_related hcopies) fun _ _ _ ↦ ?_
  refine Matches.bindUnless (await_related hcopies _ _ _) ?_
  rintro waiting _ rfl
  cases waiting with
  | refused => exact Matches.unless (.pure ⟨.failed .wouldBlock, rfl⟩)
  | unfinished => exact Matches.unless (.pure ⟨.unfinished, rfl⟩)
  | due schedule now =>
    refine (htick schedule now).bind ?_ ?_ ?_
    · rintro ⟨_, after⟩ rfl
      exact .pure rfl
    · rintro ⟨_, after⟩ rfl
      exact .pure rfl
    rintro ⟨outcome, after⟩ ⟨outcome', after'⟩ ⟨houtcome, hafter⟩
    cases houtcome with
    | ok hframe => exact Matches.unless (.pure ⟨.frame hframe, hafter⟩)
    | error failure =>
      cases failure with
      | error error => exact Matches.unless (.pure ⟨.failed error, hafter⟩)
      | overflow => exact fun _ _ _ hon _ ↦ absurd rfl hon

omit hq in
theorem close_matches : Matches R Alike (session.close h) (session'.close h') := by
  have hreleases : h.Related h' (Agrees R) fun call ↦ ∃ resource, call = .release resource :=
    ⟨Agrees.composes R, fun call ⟨_, hc⟩ ↦ ht.shared call (hc ▸ trivial), ht.log⟩
  obtain ⟨overlay, shown, rfl⟩ := hs.exists_eq
  have hclosed : (session.pointing overlay shown).IsClosed ↔ session.IsClosed := .rfl
  have hworld (w : ω') :
      ((session.pointing overlay shown).close h' w).2 = (session.close h' w).2 := by
    unfold close
    by_cases hc : session.IsClosed
    · rw [if_pos hc, if_pos (hclosed.mpr hc)]
      rfl
    · rw [if_neg hc, if_neg (hclosed.not.mpr hc)]
      rfl
  have hclose : Agrees R (session.close h) (session.close h') := close_related hreleases
  intro w w' hw
  rw [close_gives, close_gives, hworld]
  exact ⟨rfl, (hclose w w' hw).2⟩

end

/-- What the user of a session sees of a run at the end of which the session is dropped. -/
def sights (h : Host ω) (session : Session) (steps : List (Step ω)) :
    StateM ω (List (Reading × Session)) := do
  let (seen, last) ← session.outcomes h steps
  let _ ← last.close h
  return seen

def SightAlike (Q : ByteArray → ByteArray → Prop) (sight sight' : Reading × Session) : Prop :=
  sight.1.Alike Q sight'.1 ∧ sight.2.Alike sight'.2

theorem outcomes_matches (ht : h.Twins h' R Q) (hs : session.Alike session')
    (hq : ∀ pixels pixels', Q pixels pixels' → pixels.size = pixels'.size)
    {steps : List (Step ω)} {steps' : List (Step ω')}
    (hsteps : List.Forall₂ (Step.Related (Agrees R)) steps steps') :
    MatchesUnless (fun (seen, _) ↦ ∃ sight ∈ seen, sight.1 = .overflow) R
      (fun (seen, last) (seen', last') ↦
        List.Forall₂ (SightAlike Q) seen seen' ∧ last.Alike last')
      (session.outcomes h steps) (session'.outcomes h' steps') := by
  induction hsteps generalizing session session' with
  | nil => exact Matches.unless (.pure ⟨.nil, hs⟩)
  | @cons step step' steps steps' hstep _ ih =>
    cases hstep with
    | read patience =>
      change MatchesUnless _ R _ (session.read h patience >>= fun (reading, after) ↦ do
          let (rest, last) ← after.outcomes h steps
          return ((reading, after) :: rest, last))
        (session'.read h' patience >>= fun (reading, after) ↦ do
          let (rest, last) ← after.outcomes h' steps'
          return ((reading, after) :: rest, last))
      refine (read_matches ht hs hq patience).bind ?_ ?_ ?_
      · rintro ⟨_, after⟩ rfl
        exact .bind (.any _) fun _ _ ↦ .pure ⟨_, List.mem_cons_self, rfl⟩
      · rintro ⟨_, after⟩ rfl
        exact .bind (.any _) fun _ _ ↦ .pure ⟨_, List.mem_cons_self, rfl⟩
      rintro ⟨reading, after⟩ ⟨reading', after'⟩ ⟨hreading, hafter⟩
      refine (ih hafter).bind ?_ ?_ ?_
      · rintro ⟨seen, last⟩ ⟨sight, hmem, hoff⟩
        exact .pure ⟨sight, List.mem_cons_of_mem _ hmem, hoff⟩
      · rintro ⟨seen, last⟩ ⟨sight, hmem, hoff⟩
        exact .pure ⟨sight, List.mem_cons_of_mem _ hmem, hoff⟩
      rintro ⟨seen, last⟩ ⟨seen', last'⟩ ⟨hseen, hlast⟩
      exact Matches.unless (.pure ⟨.cons ⟨hreading, hafter⟩ hseen, hlast⟩)
    | close =>
      change MatchesUnless _ R _ (session.close h >>= fun closed ↦ closed.outcomes h steps)
        (session'.close h' >>= fun closed ↦ closed.outcomes h' steps')
      exact (close_matches ht hs).bindUnless fun closed closed' hclosed ↦ ih hclosed
    | @drift change change' hchange =>
      change MatchesUnless _ R _ (modify change >>= fun _ ↦ session.outcomes h steps)
        (modify change' >>= fun _ ↦ session'.outcomes h' steps')
      exact Matches.bindUnless hchange fun _ _ _ ↦ ih hs

theorem sights_match (ht : h.Twins h' R Q) (hs : session.Alike session')
    (hq : ∀ pixels pixels', Q pixels pixels' → pixels.size = pixels'.size)
    {steps : List (Step ω)} {steps' : List (Step ω')}
    (hsteps : List.Forall₂ (Step.Related (Agrees R)) steps steps') :
    MatchesUnless (fun seen ↦ ∃ sight ∈ seen, sight.1 = .overflow) R
      (List.Forall₂ (SightAlike Q)) (session.sights h steps) (session'.sights h' steps') := by
  refine (outcomes_matches ht hs hq hsteps).bind ?_ ?_ ?_
  · exact fun (seen, last) hoff ↦ .bind (.any _) fun _ _ ↦ .pure hoff
  · exact fun (seen, last) hoff ↦ .bind (.any _) fun _ _ ↦ .pure hoff
  rintro ⟨seen, last⟩ ⟨seen', last'⟩ ⟨hseen, hlast⟩
  exact (close_matches ht hlast).bindUnless fun _ _ _ ↦ Matches.unless (.pure hseen)

theorem overlayOf_unseen {ω ω' : Type} {h : Host ω} {R : ω → ω' → Prop}
    (hd : Unseen R h.deviceScale) (options : CaptureOptions) (target : ResolvedTarget) :
    Unseen R (overlayOf h options target) := by
  unfold overlayOf placementOf
  split
  · split
    · exact fun w w' hw ↦ hd w w' hw
    · exact fun _ _ hw ↦ hw
  · exact fun _ _ hw ↦ hw

section

variable (hr : h.Related h' (Agrees R) Call.Opens) (hd : Apart R h.deviceScale h'.deviceScale)
  (options : CaptureOptions) (shown : Bool)
include hr

theorem settle_matches (handle : TargetHandle) :
    Matches R (fun settled settled' ↦ settled' = { settled with drawMouse := shown })
      (settle h options handle) (settle h' { options with drawMouse := shown } handle) := by
  unfold settle
  by_cases hw : options.showRegion ∧ handle ≠ .desktop
  · rw [if_pos hw, if_pos hw]
    exact Matches.bind (hr.log _) fun _ _ _ ↦ .pure rfl
  · rw [if_neg hw, if_neg hw]
    exact .pure rfl

include hd

theorem setUp_matches (topology : Topology) (target : ResolvedTarget) (layout : BitmapLayout) :
    Matches R Alike (setUp h options topology target layout)
      (setUp h' { options with drawMouse := shown } topology target layout) := by
  have hoverlay : Matches R (fun _ _ ↦ True) (overlayOf h options target)
      (overlayOf h' { options with drawMouse := shown } target) :=
    Apart.matches ⟨overlayOf_unseen hd.left _ _, overlayOf_unseen hd.right _ _⟩ fun _ _ ↦ trivial
  refine hoverlay.bind fun overlay overlay' _ ↦ ?_
  refine Matches.bind (hr.call .now (.inl trivial)) ?_
  rintro now _ rfl
  exact Matches.bind (hr.log _) fun _ _ _ ↦ .pure rfl

theorem start_matches (target : CaptureTarget) :
    Matches R (Result.Alike Alike) (start h options target).run
      (start h' { options with drawMouse := shown } target).run := by
  have hP := hr.composes
  have hquery : h.Related h' (Agrees R) Call.IsQuery := hr.mono fun _ ↦ .inl
  have hholding {resource : Resource} {act : Procedure ω Session} {act' : Procedure ω' Session}
      (ha : Matches R (Result.Alike Alike) act.run act'.run) :
      Matches R (Result.Alike Alike) (h.holding resource act).run
        (h'.holding resource act').run := by
    refine ha.orElse fun failure ↦ ?_
    have hrelease : Agrees R (h.release resource) (h'.release resource) :=
      hr.call (.release resource) (.inr trivial)
    exact Matches.andThen (Matches.lift hrelease) fun _ _ _ ↦ .pure (.error failure)
  refine (hP.embed (Host.findTarget_related hquery target)).alike.andThen ?_
  rintro handle _ rfl
  refine (settle_matches hr options shown handle).lift.andThen ?_
  rintro settled _ rfl
  refine Matches.andThen (hP.embed (hr.call (.openSource handle) (.inr trivial))).alike
    fun _ _ _ ↦ hholding ?_
  refine Matches.andThen (Matches.lift (hr.call .depth (.inl trivial))) ?_
  rintro depth _ rfl
  refine (hP.embed (Host.resolveTopology_related hquery)).alike.andThen ?_
  rintro topology _ rfl
  refine (Host.resolveTarget_related hquery _ _ _ _).alike.andThen ?_
  rintro resolved _ rfl
  refine Matches.andThen (Agrees.alike (hP.result _)) ?_
  rintro layout _ rfl
  refine Matches.andThen (hP.embed (hr.call (.allocateSurface layout) (.inr trivial))).alike
    fun _ _ _ ↦ hholding ?_
  have hsetUp := setUp_matches hr hd settled shown topology resolved layout
  split
  · exact Matches.andThen (hP.embed (hr.call (.createOutline _) (.inr trivial))).alike
      fun _ _ _ ↦ hsetUp.lift
  · exact hsetUp.lift

end

end Session

end ScreenCapture

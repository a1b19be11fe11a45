import ScreenCapture.Clock.Manual
import ScreenCapture.Display.InMemory
import ScreenCapture.Proofs.Opening
import ScreenCapture.Proofs.PointerRecords

namespace ScreenCapture

variable {ω ω' : Type}

def MemoryDisplay.Repainted (d d' : MemoryDisplay) : Prop :=
  ∃ source, d' = { d with source } ∧
    Option.Rel (fun s s' ↦ Option.Rel (fun bytes bytes' ↦ bytes.size = bytes'.size)
      s.surface s'.surface) d.source source

/-- A display in memory whose pointer is a black image that covers all of a surface. -/
def Screen.inked : Screen MemoryDisplay where
  toDisplay := Screen.inMemory.toDisplay
  toSource := { Screen.inMemory.toSource with
    pointer := do return (← get).pointer
    drawPointer := fun _ ↦ modify fun display ↦ { display with
      source := display.source.map fun source ↦ { source with
        surface := source.surface.map fun surface ↦ (Bytes.build (fun _ ↦ 0) surface.size).val } } }

def Screen.pointerless : Screen MemoryDisplay where
  toDisplay := Screen.inked.toDisplay
  toSource := { Screen.inked.toSource with pointer := throw (.overlay "could not get icon info") }

namespace MemoryDisplay.Repainted

theorem refl (d : MemoryDisplay) : d.Repainted d := by
  refine ⟨d.source, rfl, ?_⟩
  rcases d.source with _ | ⟨_ | surface, sampled⟩
  · exact .none
  · exact .some .none
  · exact .some (.some rfl)

theorem blit : Agrees Repainted MemoryDisplay.blit.run MemoryDisplay.blit.run := by
  rintro d _ ⟨source, rfl, hsource⟩
  rcases d with ⟨monitors, windows, depth, source₀, events, live, blits, pumps, queries, draws,
    pointer, _ | _, failPointer, failSurface⟩
  · cases hsource with
    | none => exact ⟨rfl, none, rfl, .none⟩
    | @some s s' hs =>
      rcases s with ⟨surface, sampled⟩
      rcases s' with ⟨surface', sampled'⟩
      cases hs with
      | none => exact ⟨rfl, _, rfl, .some .none⟩
      | some hsize => exact ⟨rfl, _, rfl, .some (.some (by rw [hsize]))⟩
  · exact ⟨rfl, source, rfl, hsource⟩

theorem pixels : Matches Repainted (Result.Alike fun pixels pixels' ↦ pixels.size = pixels'.size)
    MemoryDisplay.pixels.run MemoryDisplay.pixels.run := by
  rintro d _ ⟨source, rfl, hsource⟩
  rcases d with ⟨monitors, windows, depth, source₀⟩
  cases hsource with
  | none => exact ⟨.error _, none, rfl, .none⟩
  | @some s s' hs =>
    rcases s with ⟨surface, sampled⟩
    rcases s' with ⟨surface', sampled'⟩
    cases hs with
    | none => exact ⟨.error _, _, rfl, .some .none⟩
    | some hsize => exact ⟨.ok hsize, _, rfl, .some (.some hsize)⟩

theorem release (resource : Resource) :
    Agrees Repainted (modify (MemoryDisplay.release · resource))
      (modify (MemoryDisplay.release · resource)) := by
  rintro d _ ⟨source, rfl, hsource⟩
  refine ⟨rfl, ?_⟩
  cases resource with
  | outline => exact ⟨source, rfl, hsource⟩
  | source => exact ⟨none, rfl, .none⟩
  | surface =>
    rcases d with ⟨monitors, windows, depth, source₀⟩
    cases hsource with
    | none => exact ⟨none, rfl, .none⟩
    | some hs => exact ⟨_, rfl, .some .none⟩

theorem drawPointer (point : Point) :
    Apart Repainted (Screen.inked.drawPointer point).run (Screen.inked.drawPointer point).run where
  left := by
    rintro d _ ⟨source, rfl, hsource⟩
    refine ⟨source, rfl, ?_⟩
    rcases d with ⟨monitors, windows, depth, source₀⟩
    cases hsource with
    | none => exact .none
    | @some s s' hs =>
      rcases s with ⟨surface, sampled⟩
      rcases s' with ⟨surface', sampled'⟩
      cases hs with
      | none => exact .some .none
      | some hsize => exact .some (.some ((Bytes.build _ _).property.trans hsize))
  right := by
    rintro _ d ⟨source, rfl, hsource⟩
    refine ⟨_, rfl, ?_⟩
    rcases d with ⟨monitors, windows, depth, source₀⟩
    cases hsource with
    | none => exact .none
    | @some s s' hs =>
      rcases s with ⟨surface, sampled⟩
      rcases s' with ⟨surface', sampled'⟩
      cases hs with
      | none => exact .some .none
      | some hsize => exact .some (.some (hsize.trans (Bytes.build _ _).property.symm))

end MemoryDisplay.Repainted

theorem MemoryDisplay.windowRect_eq (window : WindowId) (d : MemoryDisplay) :
    (Screen.inMemory.windowRect window d).2 = d := by
  change ((do return (← Window.byId d.windows window).windowRect :
    Attempt MemoryDisplay Rect) d).2 = d
  rcases Window.byId d.windows window with error | found <;> rfl

theorem MemoryDisplay.windowRect_apart {R : MemoryDisplay → MemoryDisplay → Prop}
    (window : WindowId) :
    Apart R (Screen.inMemory.windowRect window).run (Screen.inMemory.windowRect window).run where
  left d d' hd := by
    have heq := windowRect_eq window d
    exact heq.symm ▸ hd
  right d' d hd := by
    have heq := windowRect_eq window d'
    exact heq.symm ▸ hd

def World.Matching {δ κ : Type} (R : δ → δ → Prop) (w w' : World δ κ) : Prop :=
  R w.screen w'.screen ∧ w.clock = w'.clock

namespace World.Matching

variable {δ κ α β : Type} {R : δ → δ → Prop} {Q : α → β → Prop} {act : StateM δ α}
  {act' : StateM δ β}

theorem onScreen (h : Matches R Q act act') :
    Matches (Matching (κ := κ) R) Q (World.onScreen act) (World.onScreen act') :=
  fun _ _ hw ↦ ⟨(h _ _ hw.1).1, (h _ _ hw.1).2, hw.2⟩

theorem onScreen_apart (h : Apart R act act') :
    Apart (Matching (κ := κ) R) (World.onScreen act) (World.onScreen act') :=
  ⟨fun _ _ hw ↦ ⟨h.left _ _ hw.1, hw.2⟩, fun _ _ hw ↦ ⟨h.right _ _ hw.1, hw.2⟩⟩

theorem onClock (act : StateM κ α) :
    Agrees (Matching R) (World.onClock act) (World.onClock act) := by
  rintro ⟨screen, clock⟩ ⟨screen', _⟩ ⟨hscreen, rfl⟩
  exact ⟨rfl, hscreen, rfl⟩

end World.Matching

open MemoryDisplay in
theorem inked_twins : (Host.assemble .inked .manual).Twins (Host.assemble .pointerless .manual)
    (World.Matching Repainted) fun pixels pixels' ↦ pixels.size = pixels'.size where
  shared call hc := by
    cases call with
    | pumpOutline =>
      refine World.Matching.onScreen ?_
      rintro d _ ⟨source, rfl, hsource⟩
      exact ⟨rfl, source, rfl, hsource⟩
    | release resource => exact World.Matching.onScreen (Repainted.release resource)
    | blit rect => exact World.Matching.onScreen Repainted.blit
    | readPalette size => exact World.Matching.onScreen fun d d' hd ↦ ⟨rfl, hd⟩
    | now | sleep | timer => exact World.Matching.onClock _
    | _ => exact hc.elim
  pixels := World.Matching.onScreen Repainted.pixels
  pointers call hc := by
    cases call with
    | pointer => exact World.Matching.onScreen_apart ⟨fun d d' hd ↦ hd, fun d d' hd ↦ hd⟩
    | windowRect window => exact World.Matching.onScreen_apart (windowRect_apart window)
    | drawPointer point => exact World.Matching.onScreen_apart (Repainted.drawPointer point)
    | _ => exact hc.elim
  log line _ _ hw := ⟨rfl, hw⟩
  pointerLog line _ := ⟨fun _ _ hw ↦ hw, fun _ _ hw ↦ hw⟩

theorem inked_twins_drawless :
    (Host.assemble .inked .manual).drawless.Twins (Host.assemble .pointerless .manual).drawless
      (World.Matching Eq) Eq where
  shared call hc := by
    rintro ⟨screen, clock⟩ ⟨_, _⟩ ⟨rfl, rfl⟩
    cases call <;> first | exact hc.elim | exact ⟨rfl, rfl, rfl⟩
  pixels := Agrees.alike fun ⟨_, _⟩ ⟨_, _⟩ ⟨hscreen, hclock⟩ ↦ by
    cases hscreen
    cases hclock
    exact ⟨rfl, rfl, rfl⟩
  pointers call hc := by
    cases call with
    | pointer => exact ⟨fun _ _ hw ↦ hw, fun _ _ hw ↦ hw⟩
    | windowRect window =>
      exact World.Matching.onScreen_apart (MemoryDisplay.windowRect_apart window)
    | drawPointer point => exact ⟨fun _ _ hw ↦ hw, fun _ _ hw ↦ hw⟩
    | _ => exact hc.elim
  log _ _ _ hw := ⟨rfl, hw⟩
  pointerLog _ _ := ⟨fun _ _ hw ↦ hw, fun _ _ hw ↦ hw⟩

theorem inked_related :
    (Host.assemble .inked .manual).Related (Host.assemble .pointerless .manual) (Agrees Eq)
      Call.Opens where
  composes := Agrees.composes Eq
  call call hc w _ hw := by
    subst hw
    cases call <;> first | exact ⟨rfl, rfl⟩ | exact (hc.elim id id).elim
  log _ _ _ hw := ⟨rfl, hw⟩

def Step.recorded : Step ω → Step (Recording ω)
  | read patience => .read patience
  | close => .close
  | drift change => .drift fun r ↦ { r with world := change r.world }

theorem Step.recorded_related {R : ω → ω' → Prop} {steps : List (Step ω)} {steps' : List (Step ω')}
    (hs : List.Forall₂ (Step.Related (Agrees R)) steps steps') :
    List.Forall₂ (Step.Related (Agrees (Recording.Level Entry.IsPointers R)))
      (steps.map recorded) (steps'.map recorded) := by
  refine List.forall₂_map_left_iff.mpr (List.forall₂_map_right_iff.mpr (hs.imp ?_))
  intro step step' hstep
  cases hstep with
  | read patience => exact .read patience
  | close => exact .close
  | drift hchange =>
    refine .drift fun r r' hr ↦ ⟨rfl, (hchange r.world r'.world hr.1).2, hr.2⟩

theorem Step.recorded_spares (step : Step ω) :
    Step.Related Host.Spares step.recorded step.recorded := by
  cases step with
  | read patience => exact .read patience
  | close => exact .close
  | drift change => exact .drift fun r hr ↦ ⟨hr, rfl⟩

theorem Reading.eq_of_alike {reading reading' : Reading} (hr : reading.Alike Eq reading') :
    reading = reading' := by
  cases hr with
  | failed error => rfl
  | unfinished => rfl
  | @frame frame frame' hframe =>
    obtain ⟨hlayout, hsequence, hpts, htakenAt, hduration, head, pixels, _, -, hdata, hdata', rfl⟩ :=
      hframe
    have hbytes : frame.data = frame'.data := hdata.trans hdata'.symm
    cases frame
    cases frame'
    simp_all

def corner (visible : Bool) : World MemoryDisplay ManualClock :=
  ⟨{ MemoryDisplay.twoByTwo with pointer := ⟨visible, ⟨0, 0⟩, ⟨0, 0⟩⟩ }, .startingAt 0⟩

def Reading.byte? (reading : Reading) (i : Nat) : Option UInt8 :=
  reading.frame?.map (·.data.get! i)

instance (r : Recording ω) : Decidable r.Undrawn :=
  decidable_of_iff (r.calls.all fun | .drawPointer _ => false | _ => true) <| by
    refine List.all_eq_true.trans ⟨fun hu point hmem ↦ Bool.noConfusion (hu _ hmem), ?_⟩
    intro hu call hmem
    cases call with
    | drawPointer point => exact absurd hmem (hu point)
    | _ => rfl

namespace Session

variable {h : Host ω} {h' : Host ω'} {session session' : Session}

theorem sights_related {P : ∀ ⦃α : Type⦄, StateM ω α → StateM ω' α → Prop}
    (hr : h.Related h' P fun _ ↦ True) {steps : List (Step ω)} {steps' : List (Step ω')}
    (hs : List.Forall₂ (Step.Related P) steps steps') :
    P (session.sights h steps) (session.sights h' steps') := by
  have hP := hr.composes
  refine hP.bind (outcomes_related (hr.mono fun _ _ ↦ trivial) hs) fun w ↦ ?_
  exact hP.bind (close_related (hr.mono fun _ _ ↦ trivial)) fun _ ↦ hP.pure _

/-- If nothing is drawn in a run, then it is also a run of the host that cannot draw. -/
theorem sights_drawless {steps : List (Step ω)} {r : Recording ω}
    (hu : (session.sights h.recorded (steps.map Step.recorded) r).2.Undrawn) :
    session.sights h.recorded (steps.map Step.recorded) r =
      session.sights h.drawless.recorded (steps.map Step.recorded) r := by
  have hsteps : List.Forall₂ (Step.Related Host.Spares) (steps.map Step.recorded)
      (steps.map Step.recorded) := by
    refine List.forall₂_map_left_iff.mpr (List.forall₂_map_right_iff.mpr ?_)
    exact List.forall₂_same.mpr fun step _ ↦ step.recorded_spares
  exact (sights_related h.drawless_related hsteps r hu).2

theorem map_fst_eq_of_alike {seen seen' : List (Reading × Session)}
    (hs : List.Forall₂ (SightAlike Eq) seen seen') : seen.map Prod.fst = seen'.map Prod.fst := by
  induction hs with
  | nil => rfl
  | cons hsight _ ih => rw [List.map_cons, List.map_cons, ih, Reading.eq_of_alike hsight.1]

/-- The pointer shows in the pixels only. Whether it is drawn, what is answered about it and where
the window has gone since make no difference to what a session opens with, which of its reads fail
and how, when its frames are due, what their headers and colour tables are, and what is called and
released in which order, as long as no read breaks off. Where nothing is drawn, not even the pixels
differ. -/
theorem pointer_shows_in_pixels_only (h : Host ω) (h' : Host ω')
    (opening drawn still : ω → ω' → Prop)
    (hopens : h.Related h' (Agrees opening) Call.Opens)
    (hscale : Apart opening h.deviceScale h'.deviceScale)
    (hdrawn : h.Twins h' drawn fun pixels pixels' ↦ pixels.size = pixels'.size)
    (hstill : h.drawless.Twins h'.drawless still Eq)
    (hopened : ∀ w w', opening w w' → drawn w w' ∧ still w w')
    (options : CaptureOptions) (shown : Bool) (target : CaptureTarget) (w : ω) (w' : ω')
    (hw : opening w w') :
    let opened := start h.recorded options target (.ofWorld w)
    let opened' := start h'.recorded { options with drawMouse := shown } target (.ofWorld w')
    Result.Alike Alike opened.1 opened'.1 ∧
    opened.2.besides (· = .call .deviceScale) = opened'.2.besides (· = .call .deviceScale) ∧
    (∀ session session', opened.1 = .ok session → opened'.1 = .ok session' →
      ∀ (steps : List (Step ω)) (steps' : List (Step ω')),
      let seen := session.sights h.recorded (steps.map Step.recorded) (.ofWorld opened.2.world)
      let seen' := session'.sights h'.recorded (steps'.map Step.recorded)
        (.ofWorld opened'.2.world)
      (∀ sight ∈ seen.1, sight.1 ≠ .overflow) → (∀ sight ∈ seen'.1, sight.1 ≠ .overflow) →
      (List.Forall₂ (Step.Related (Agrees drawn)) steps steps' →
        List.Forall₂ (SightAlike fun pixels pixels' ↦ pixels.size = pixels'.size)
          seen.1 seen'.1 ∧
        seen.2.besides Entry.IsPointers = seen'.2.besides Entry.IsPointers) ∧
      (List.Forall₂ (Step.Related (Agrees still)) steps steps' →
        seen.2.Undrawn → seen'.2.Undrawn →
        seen.1.map Prod.fst = seen'.1.map Prod.fst)) ∧
    ∀ (session : Session) (r : Recording ω), (session.drawPointer h.recorded r).2.Undrawn ↔
      r.Undrawn ∧ session.SparesPixels h r.world := by
  intro opened opened'
  have hlevel : Recording.Level (· = .call .deviceScale) opening (.ofWorld w) (.ofWorld w') :=
    ⟨hw, rfl⟩
  have hscale' : Apart (Recording.Level (· = .call .deviceScale) opening) h.recorded.deviceScale
      h'.recorded.deviceScale := Recording.apart_add hscale rfl
  obtain ⟨halike, hworlds, hbesides⟩ :=
    start_matches hopens.recorded hscale' options shown target _ _ hlevel
  refine ⟨halike, hbesides, fun session session' hs hs' steps steps' ↦ ?_,
    drawPointer_undrawn_iff⟩
  have hsession : session.Alike session' := by
    have hboth : Result.Alike Alike opened.1 opened'.1 := halike
    rw [hs, hs'] at hboth
    cases hboth with
    | ok hboth => exact hboth
  obtain ⟨hworlds, hstill'⟩ := hopened _ _ hworlds
  intro seen seen' hon hon'
  have hwhole : ¬ ∃ sight ∈ seen.1, sight.1 = .overflow := fun ⟨sight, hmem, hoff⟩ ↦
    hon sight hmem hoff
  have hwhole' : ¬ ∃ sight ∈ seen'.1, sight.1 = .overflow := fun ⟨sight, hmem, hoff⟩ ↦
    hon' sight hmem hoff
  refine ⟨fun hsteps ↦ ?_, fun hsteps hu hu' ↦ ?_⟩
  · obtain ⟨hseen, -, hrecords⟩ := sights_match hdrawn.recorded hsession (fun _ _ hq ↦ hq)
      (Step.recorded_related hsteps) (.ofWorld opened.2.world) (.ofWorld opened'.2.world)
      ⟨hworlds, rfl⟩ hwhole hwhole'
    exact ⟨hseen, hrecords⟩
  · -- without a pointer drawn these are runs of hosts that cannot draw, whose pixels are equal
    have hrun : seen = _ := sights_drawless hu
    have hrun' : seen' = _ := sights_drawless hu'
    rw [hrun] at hwhole
    rw [hrun'] at hwhole'
    obtain ⟨hseen, -⟩ := sights_match hstill.recorded hsession (fun _ _ ↦ congrArg _)
      (Step.recorded_related hsteps) (.ofWorld opened.2.world) (.ofWorld opened'.2.world)
      ⟨hstill', rfl⟩ hwhole hwhole'
    rw [hrun, hrun']
    exact map_fst_eq_of_alike hseen

def twoReads : List (Step (World MemoryDisplay ManualClock)) := [.read 3, .close, .read 3]

def cornered (h : Host (World MemoryDisplay ManualClock)) (visible : Bool) :
    Option (List (Reading × Session) × Recording (World MemoryDisplay ManualClock)) :=
  let opened := start h.recorded .standard .desktop (.ofWorld (corner visible))
  opened.1.toOption.map fun session ↦ session.sights h.recorded (twoReads.map Step.recorded)
    (.ofWorld opened.2.world)

theorem exists_cornered (h : Host (World MemoryDisplay ManualClock)) (visible undrawn : Bool)
    (bytes : List (Option UInt8)) (hr : (cornered h visible).map (fun seen ↦
      (seen.1.map (·.1.byte? 69), decide seen.2.Undrawn,
        decide (∀ sight ∈ seen.1, sight.1 ≠ .overflow))) = some (bytes, undrawn, true)) :
    ∃ session r, start h.recorded .standard .desktop (.ofWorld (corner visible)) =
        (.ok session, r) ∧
      let seen := session.sights h.recorded (twoReads.map Step.recorded) (.ofWorld r.world)
      cornered h visible = some seen ∧ seen.1.map (·.1.byte? 69) = bytes ∧
        (undrawn = true → seen.2.Undrawn) ∧ ∀ sight ∈ seen.1, sight.1 ≠ .overflow := by
  obtain ⟨seen, hseen, htold⟩ := Option.map_eq_some_iff.mp hr
  obtain ⟨hbytes, hmarks⟩ := Prod.mk.inj htold
  obtain ⟨hundrawn, hwhole⟩ := Prod.mk.inj hmarks
  obtain ⟨session, r, hstart, rfl⟩ := exists_started (h := h.recorded) .standard .desktop
    (.ofWorld (corner visible)) (f := fun session r ↦
      session.sights h.recorded (twoReads.map Step.recorded) (.ofWorld r.world)) hseen
  exact ⟨session, r, hstart, hseen, hbytes, fun hu ↦ of_decide_eq_true (hundrawn.trans hu),
    of_decide_eq_true hwhole⟩

theorem pointer_shows_in_pixels_only_twoByTwo :
    let h := Host.assemble .inked .manual
    let h' := Host.assemble .pointerless .manual
    ∃ drawn drawn' still still',
      cornered h true = some drawn ∧ cornered h' true = some drawn' ∧
      cornered h false = some still ∧ cornered h' false = some still' ∧
      List.Forall₂ (SightAlike fun pixels pixels' ↦ pixels.size = pixels'.size)
        drawn.1 drawn'.1 ∧
      drawn.2.besides Entry.IsPointers = drawn'.2.besides Entry.IsPointers ∧
      drawn.1.map (·.1.byte? 69) = [some 0, none] ∧
      drawn'.1.map (·.1.byte? 69) = [some 1, none] ∧
      still.1.map Prod.fst = still'.1.map Prod.fst ∧
      still.1.map (·.1.byte? 69) = [some 1, none] := by
  intro h h'
  have hsteps {R : World MemoryDisplay ManualClock → World MemoryDisplay ManualClock → Prop} :
      List.Forall₂ (Step.Related (Agrees R)) twoReads twoReads :=
    .cons (.read 3) (.cons .close (.cons (.read 3) .nil))
  have hruns (visible : Bool) := (pointer_shows_in_pixels_only h h' Eq
    (World.Matching MemoryDisplay.Repainted) (World.Matching Eq) inked_related
    ⟨fun w w' hw ↦ hw, fun w w' hw ↦ hw⟩ inked_twins inked_twins_drawless
    (fun w w' hw ↦ hw ▸ ⟨⟨.refl w.screen, rfl⟩, rfl, rfl⟩) .standard true .desktop
    (corner visible) _ rfl).2.2.1
  obtain ⟨session₁, r₁, hstart₁, hrun₁, hbytes₁, -, hwhole₁⟩ :=
    exists_cornered h true false [some 0, none] (by decide +kernel)
  obtain ⟨session₂, r₂, hstart₂, hrun₂, hbytes₂, -, hwhole₂⟩ :=
    exists_cornered h' true true [some 1, none] (by decide +kernel)
  obtain ⟨session₃, r₃, hstart₃, hrun₃, hbytes₃, hundrawn₃, hwhole₃⟩ :=
    exists_cornered h false true [some 1, none] (by decide +kernel)
  obtain ⟨session₄, r₄, hstart₄, hrun₄, -, hundrawn₄, hwhole₄⟩ :=
    exists_cornered h' false true [some 1, none] (by decide +kernel)
  have hdrawn := hruns true session₁ session₂ (congrArg Prod.fst hstart₁)
    (congrArg Prod.fst hstart₂) twoReads twoReads
  have hstill := hruns false session₃ session₄ (congrArg Prod.fst hstart₃)
    (congrArg Prod.fst hstart₄) twoReads twoReads
  have hreopened (visible : Bool) : start h'.recorded { CaptureOptions.standard with
      drawMouse := true } .desktop (.ofWorld (corner visible)) =
      start h'.recorded .standard .desktop (.ofWorld (corner visible)) := rfl
  rw [hreopened, hstart₁, hstart₂] at hdrawn
  rw [hreopened, hstart₃, hstart₄] at hstill
  obtain ⟨halike, hbesides⟩ := (hdrawn hwhole₁ hwhole₂).1 hsteps
  exact ⟨_, _, _, _, hrun₁, hrun₂, hrun₃, hrun₄, halike, hbesides, hbytes₁, hbytes₂,
    (hstill hwhole₃ hwhole₄).2 hsteps (hundrawn₃ rfl) (hundrawn₄ rfl), hbytes₃⟩

end Session

end ScreenCapture

import ScreenCapture.Clock.Manual
import ScreenCapture.Display.InMemory
import ScreenCapture.Proofs.Opening
import ScreenCapture.Proofs.PaletteBuffer
import ScreenCapture.Proofs.Tick
import ScreenCapture.Proofs.Trace

namespace ScreenCapture

variable {ω : Type} {h : Host ω}

def Call.AimsAt (rect : Rect) : Call → Prop
  | .blit r => r = rect
  | _ => True

namespace Session

theorem Makes.aimsAt {session : Session} {call : Call} (hm : session.Makes call) :
    call.AimsAt session.target.captureRect := by
  rcases hm with hasks | ⟨resource, rfl⟩
  · cases call with
    | blit r => exact hasks
    | _ => trivial
  · trivial

theorem outcomes_traced (session : Session) (steps : List (Step ω)) (w : ω) :
    ∃ made, (∀ event ∈ made, event.call.AimsAt session.target.captureRect) ∧ ∀ events,
      session.outcomes h.traced (steps.map Step.traced) ⟨w, events⟩ =
        ((session.outcomes h steps w).1, ⟨(session.outcomes h steps w).2, events ++ made⟩) :=
  outcomes_related (h.traced_related fun _ ↦ Makes.aimsAt) (Step.related_map Step.traced_related) w

theorem run_episode_settings {session : Session} {steps : List (Step ω)} {w : ω}
    {episode : Episode ω} (he : episode ∈ (session.run h steps w).1.1) :
    episode.before.target = session.target ∧ episode.before.layout = session.layout := by
  obtain ⟨earlier, later, hsplit⟩ := List.append_of_mem he
  have htrail := session.run_trail h steps w
  rw [hsplit] at htrail
  exact htrail.split.1.settings_eq.2

/-- What a read answers follows from what its own tick got from the source. -/
structure AccountsFor (h : Host ω) (session : Session) (patience : Nat) (w : ω)
    (reading : Reading) : Prop where
  of_frame : ∀ frame, reading = .frame frame → ∃ palette pixels,
    session.Obtains h patience w frame.pts (.ok (palette, pixels)) ∧
    palette.size = (if session.layout.depth = 8 then 1024 else 0) ∧
    frame.data = session.layout.headers ++ palette ++ pixels ∧
    frame.size = session.layout.headerSize + session.layout.frameSize
  of_obtains : ¬ session.IsClosed → ∀ now palette pixels,
    session.Obtains h patience w now (.ok (palette, pixels)) →
      palette.size = session.layout.paletteSize ∧
      (reading = .failed (session.layout.pixelFault pixels.size) ↔
        pixels.size ≠ session.layout.frameSize)
  of_failed : ∀ error, reading = .failed error →
    error = .closed ∨ error = .wouldBlock ∨
    (∃ now, session.Obtains h patience w now (.error (.error error))) ∨
    ∃ now palette pixels, session.Obtains h patience w now (.ok (palette, pixels)) ∧
      pixels.size ≠ session.layout.frameSize ∧ error = session.layout.pixelFault pixels.size
  of_overflow : reading = .overflow → ∃ now, session.Obtains h patience w now (.error .overflow)

theorem AccountsFor.of_ending {session : Session} {patience : Nat} {w : ω} {reading : Reading}
    (he : session.Ending h patience w reading)
    (hread : (session.read h patience w).1.1 = reading) :
    session.AccountsFor h patience w reading where
  of_frame frame hframe := by
    subst hframe
    cases he with
    | @frame _ palette pixels ho hsize hlayout hdata =>
      refine ⟨palette, pixels, ho, ?_, hdata, ?_⟩
      · rw [ho.size_palette, BitmapLayout.paletteSize_eq]
      · rw [Frame.size, hdata, BitmapLayout.size_append ho.size_palette hsize]
        rfl
  of_obtains hopen now palette pixels ho := by
    refine ⟨ho.size_palette, ?_⟩
    have hok := ho.reading_of_ok hopen
    rw [hread] at hok
    split at hok
    · next hsize =>
      obtain ⟨frame, rfl, -⟩ := hok
      simp [hsize]
    · next hsize => simp [hok, hsize]
  of_failed error herror := by
    subst herror
    cases he with
    | refused _ => exact .inr (.inl rfl)
    | failed ho => exact .inr (.inr (.inl ⟨_, ho⟩))
    | misfit ho hsize => exact .inr (.inr (.inr ⟨_, _, _, ho, hsize, rfl⟩))
  of_overflow hoverflow := by
    subst hoverflow
    cases he with
    | overflow ho => exact ⟨_, ho⟩

theorem read_accountsFor (session : Session) (patience : Nat) (w : ω) :
    session.AccountsFor h patience w (session.read h patience w).1.1 := by
  by_cases hc : session.IsClosed
  · rw [read_of_isClosed hc]
    exact ⟨nofun, fun hopen ↦ absurd hc hopen, fun error he ↦ by cases he; exact .inl rfl, nofun⟩
  · exact .of_ending (session.read_ending hc patience w) rfl

/-- A session captures one rectangle, which lies inside of its target and is not empty, whatever
becomes of the target. Each frame is made of the headers that were settled when the session was
opened, of the colour table that is read in its own tick, where there is one, and of the pixels as
they are after the copy and the pointer. A colour table always fits, and pixels that do not fit are
an error. If colour tables are written to a buffer that is kept, nothing left there ever shows. -/
theorem frames_hold_what_was_copied (h : Host ω) (options : CaptureOptions)
    (target : CaptureTarget) (w w₀ : ω) (session : Session)
    (hstart : start h options target w = (.ok session, w₀)) :
    let rect := session.target.captureRect
    let area := session.target.area
    let palette := session.layout.paletteSize
    ((rect.left < rect.right ∧ rect.top < rect.bottom) ∧ area.left ≤ rect.left ∧
      area.top ≤ rect.top ∧ rect.right ≤ area.right ∧ rect.bottom ≤ area.bottom) ∧
    ∀ steps : List (Step ω),
      let run := session.run h steps w₀
      let outcomes := session.outcomes h steps w₀
      (run.1.2.target = session.target ∧ run.1.2.layout = session.layout) ∧
      (∀ episode ∈ run.1.1,
        (episode.before.target = session.target ∧ episode.before.layout = session.layout) ∧
        ∃ patience, .read patience ∈ steps ∧
          episode.before.AccountsFor h patience episode.world episode.reading) ∧
      (∃ made, (∀ event ∈ made, ∀ r, event.call = .blit r → r = rect) ∧ ∀ events,
        session.outcomes h.traced (steps.map Step.traced) ⟨w₀, events⟩ =
          (outcomes.1, ⟨outcomes.2, events ++ made⟩)) ∧
      ∀ fill : Filler ω, fill.Covers palette → h.readPalette palette = fill.onBlank palette →
        ∀ buffer, (session.outcomes (h.buffered fill) (steps.map Step.buffered) ⟨w₀, buffer⟩).1 =
          outcomes.1 := by
  intro rect area palette
  have hfresh : Fresh h options session := start_answers options target w session (by rw [hstart])
  refine ⟨⟨Rect.lt_of_not_isEmpty hfresh.fits.not_isEmpty, hfresh.fits.encloses⟩, fun steps ↦ ?_⟩
  intro run outcomes
  refine ⟨(session.run_trail h steps w₀).settings_eq.2, fun episode he ↦ ?_, ?_, ?_⟩
  · -- each episode is a read of its own, so what one read accounts for is enough
    obtain ⟨patience, hmem, hread⟩ := run_episode h he
    have haccounts := episode.before.read_accountsFor (h := h) patience episode.world
    rw [hread] at haccounts
    exact ⟨run_episode_settings he, patience, hmem, haccounts⟩
  · obtain ⟨made, haims, hrun⟩ := session.outcomes_traced (h := h) steps w₀
    refine ⟨made, fun event he r hr ↦ ?_, hrun⟩
    have haim := haims event he
    rwa [hr] at haim
  · exact fun fill hc hp buffer ↦ outcomes_buffered hc hp steps w₀ buffer

theorem frames_hold_what_was_copied_twoByTwo :
    let fill : Filler (World MemoryDisplay ManualClock) := .plain 128
    let h := { Host.assemble .inMemory .manual with readPalette := fill.onBlank }
    let change : Step (World MemoryDisplay ManualClock) :=
      .drift fun w ↦ { w with screen := { w.screen with depth := 32, monitors := [] } }
    let steps := [.read 3, change, .read 3]
    ∃ session w₀,
      start h .standard .desktop ⟨{ MemoryDisplay.twoByTwo with depth := 8 }, .startingAt 0⟩ =
        (.ok session, w₀) ∧
      (Episode.frames (session.run h steps w₀).1.1).map Frame.size = [1086, 1086] ∧
      (∀ frame ∈ Episode.frames (session.run h steps w₀).1.1, ∃ palette pixels,
        palette.size = 1024 ∧ frame.data = session.layout.headers ++ palette ++ pixels) ∧
      ∀ buffer, (session.outcomes (h.buffered fill) (steps.map Step.buffered) ⟨w₀, buffer⟩).1 =
        (session.outcomes h steps w₀).1 := by
  intro fill h change steps
  obtain ⟨session, w₀, hstart, heval⟩ := exists_started (h := h) .standard .desktop
    ⟨{ MemoryDisplay.twoByTwo with depth := 8 }, .startingAt 0⟩ (a := (8, 1078, 8, 2))
    (f := fun session w₀ ↦ (session.layout.depth, session.layout.headerSize,
      session.layout.frameSize, (Episode.frames (session.run h steps w₀).1.1).length))
    (by decide +kernel)
  obtain ⟨hdepth, hheader, hframe, hlength⟩ : session.layout.depth = 8 ∧
      session.layout.headerSize = 1078 ∧ session.layout.frameSize = 8 ∧ _ = 2 := by
    simpa only [Prod.mk.injEq] using heval
  obtain ⟨-, hruns⟩ := frames_hold_what_was_copied h .standard .desktop _ w₀ session hstart
  obtain ⟨-, hepisodes, -, hbuffered⟩ := hruns steps
  have hfile (frame : Frame) (hmem : frame ∈ Episode.frames (session.run h steps w₀).1.1) :
      frame.size = 1086 ∧ ∃ palette pixels, palette.size = 1024 ∧
        frame.data = session.layout.headers ++ palette ++ pixels := by
    obtain ⟨earlier, episode, later, hsplit, hreading⟩ := Episode.exists_split_of_mem_frames hmem
    obtain ⟨⟨-, hlayout⟩, patience, -, haccounts⟩ := hepisodes episode (by simp [hsplit])
    obtain ⟨palette, pixels, -, hpalette, hdata, hsize⟩ := haccounts.of_frame frame hreading
    rw [hlayout] at hpalette hdata hsize
    rw [if_pos hdepth] at hpalette
    exact ⟨by rw [hsize, hheader, hframe], palette, pixels, hpalette, hdata⟩
  refine ⟨session, w₀, hstart, (List.eq_replicate_iff (n := 2)).mpr ⟨?_, fun size hsize ↦ ?_⟩,
    fun frame hmem ↦ (hfile frame hmem).2,
    hbuffered fill (Filler.plain_covers _ 128) rfl⟩
  · rw [List.length_map, hlength]
  · obtain ⟨frame, hmem, rfl⟩ := List.mem_map.mp hsize
    exact (hfile frame hmem).1

end Session

end ScreenCapture

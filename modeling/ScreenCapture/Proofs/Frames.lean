import ScreenCapture.Clock.Manual
import ScreenCapture.Display.InMemory
import ScreenCapture.Proofs.Opening
import ScreenCapture.Proofs.Run

namespace ScreenCapture.Session

variable {ω : Type}

/-- A read that fails leaves its session as it was, but for the note that a pointer could not be
drawn. So the frames of a run are numbered one by one, and each of them is scheduled as if there had
been no other reads than the frames before it. -/
theorem failed_reads_leave_no_trace (h : Host ω) :
    (∀ (session after : Session) (patience : Nat) (error : CaptureError) (w w' : ω),
      session.read h patience w = ((.failed error, after), w') →
        ∃ reported, after = { session with
          overlay := session.overlay.map fun overlay ↦ { overlay with reported } }) ∧
    ∀ (options : CaptureOptions) (target : CaptureTarget) (w w₀ : ω) (session : Session),
      start h options target w = (.ok session, w₀) → ∀ steps : List (Step ω),
        let episodes := (session.run h steps w₀).1.1
        (Episode.frames episodes).map Frame.sequence =
          List.range (Episode.frames episodes).length ∧
        ∀ (earlier later : List (Episode ω)) (episode : Episode ω) (frame : Frame),
          episodes = earlier ++ episode :: later → episode.reading = .frame frame →
            let times := (Episode.frames earlier).map Frame.pts
            let pacer := session.pacer.replay times
            (pacer.schedule frame.pts).IsDue ∧
            episode.before.pacer = pacer ∧
            episode.after.pacer = pacer.commit (pacer.schedule frame.pts) ∧
            ∀ (steps' : List (Step ω)) (w' : ω),
              (Episode.frames (session.run h steps' w').1.1).map Frame.pts = times →
                (session.run h steps' w').1.2.pacer = episode.before.pacer := by
  refine ⟨fun session after patience error w w' hread ↦ ?_,
    fun options target w w₀ session hstart steps ↦ ?_⟩
  · have hturn : session.Turn (session.read h patience w).1.1 (session.read h patience w).1.2 :=
      read_turn patience w
    rw [hread] at hturn
    exact hturn.of_failed
  · have hfresh : Fresh h options session := start_answers options target w session (by rw [hstart])
    have htrail := session.run_trail h steps w₀
    intro episodes
    refine ⟨?_, fun earlier later episode frame hsplit hframe ↦ ?_⟩
    · rw [htrail.sequences.1, hfresh.sequence_eq, List.range_eq_range']
    · have ht : Trail session (earlier ++ episode :: later) (session.run h steps w₀).1.2 := by
        rw [← hsplit]
        exact htrail
      obtain ⟨hserves, hdue, hafter, -⟩ := ht.frame_at hframe
      have hpacer := hserves.eq_replay
      refine ⟨hpacer ▸ hdue, hpacer, hpacer ▸ hafter, fun steps' w' htimes ↦ ?_⟩
      have hserves' := (session.run_trail h steps' w').serves
      rw [htimes] at hserves'
      exact hserves'.eq_replay.trans hpacer.symm

theorem failed_reads_leave_no_trace_twoByTwo :
    let h := Host.assemble .inMemory .manual
    let options := { CaptureOptions.standard with nonblocking := true }
    let late : Step (World MemoryDisplay ManualClock) :=
      .drift fun w ↦ { w with clock := w.clock.advance 40000 }
    ∃ session w₀ error after w', start h options .desktop ⟨.twoByTwo, .startingAt 0⟩ =
        (.ok session, w₀) ∧
      session.read h 0 w₀ = ((.failed error, after), w') ∧
      (∃ reported, after = { session with
        overlay := session.overlay.map fun overlay ↦ { overlay with reported } }) ∧
      ∃ earlier episode later frame,
        (session.run h [.read 0, late, .read 0] w₀).1.1 = earlier ++ episode :: later ∧
        episode.reading = .frame frame ∧
        episode.before.pacer = session.pacer.replay ((Episode.frames earlier).map Frame.pts) := by
  intro h options late
  obtain ⟨session, w₀, hstart, heval⟩ := exists_started (h := h) options .desktop
    ⟨.twoByTwo, .startingAt 0⟩ (a := (true, [40000])) (f := fun session w₀ ↦
      ((session.read h 0 w₀).1.1 matches .failed _,
        (Episode.frames (session.run h [.read 0, late, .read 0] w₀).1.1).map Frame.pts))
    (by decide +kernel)
  obtain ⟨hfailed, htimes⟩ := Prod.mk.inj heval
  obtain ⟨hreads, hruns⟩ := failed_reads_leave_no_trace h
  rcases hread : session.read h 0 w₀ with ⟨⟨_ | error | _ | _, after⟩, w'⟩
  · rw [hread] at hfailed
    cases hfailed
  · obtain ⟨frame, hmem, -⟩ : ∃ frame ∈ Episode.frames
        (session.run h [.read 0, late, .read 0] w₀).1.1, frame.pts = 40000 := by
      refine List.mem_map.mp ?_
      rw [htimes]
      decide
    obtain ⟨earlier, episode, later, hsplit, hframe⟩ := Episode.exists_split_of_mem_frames hmem
    have hpaced := (hruns _ _ _ _ _ hstart _).2 _ _ _ _ hsplit hframe
    exact ⟨session, w₀, error, after, w', hstart, hread, hreads _ _ _ _ _ _ hread, earlier, episode,
      later, frame, hsplit, hframe, hpaced.2.1⟩
  all_goals
    rw [hread] at hfailed
    cases hfailed

/-- Whatever the clock tells, every frame moves the deadline by one interval or by two, and never
beyond the present. So no frame comes before the time that its number has on the timeline of the
first deadline. -/
theorem frames_are_never_early (h : Host ω) (options : CaptureOptions) (target : CaptureTarget)
    (w w₀ : ω) (session : Session) (hstart : start h options target w = (.ok session, w₀)) :
    (∃ w', session.pacer = .start options.frameRate (h.now w').1) ∧
    ∀ steps : List (Step ω),
      let episodes := (session.run h steps w₀).1.1
      let last := (session.run h steps w₀).1.2
      (∃ m : Nat, (Episode.frames episodes).length ≤ m ∧ m ≤ 2 * (Episode.frames episodes).length ∧
        last.pacer.deadline = session.pacer.deadline + m * frameUnits) ∧
      (∀ episode ∈ episodes, ∀ frame, episode.reading = .frame frame →
        episode.after.pacer.deadline = episode.before.pacer.deadline + frameUnits ∨
        episode.after.pacer.deadline = episode.before.pacer.deadline + 2 * frameUnits) ∧
      (∀ frame, (Episode.frames episodes).getLast? = some frame →
        session.pacer.timeOf last.pacer.deadline ≤ frame.pts) ∧
      ∀ frame ∈ Episode.frames episodes,
        session.pacer.timeOf (session.pacer.deadline + (frame.sequence + 1) * frameUnits) ≤
          frame.pts := by
  have hfresh : Fresh h options session := start_answers options target w session (by rw [hstart])
  refine ⟨hfresh.pacer_eq, fun steps ↦ ?_⟩
  intro episodes last
  have htrail : Trail session episodes last := session.run_trail h steps w₀
  refine ⟨?_, fun episode hmem frame hframe ↦ ?_, fun frame hlast ↦ ?_, fun frame hmem ↦ ?_⟩
  · have hdeadline := htrail.serves.deadline_eq
    rwa [List.length_map] at hdeadline
  · obtain ⟨earlier, later, hsplit⟩ := List.append_of_mem hmem
    rw [hsplit] at htrail
    obtain ⟨-, -, hafter, -⟩ := htrail.frame_at hframe
    rw [hafter]
    rcases episode.before.pacer.schedule_deadline frame.pts with ⟨-, he⟩ | ⟨-, he⟩
    · exact .inr he
    · exact .inl he
  · refine htrail.serves.timeOf_last_le ?_
    rw [List.getLast?_map, hlast]
    rfl
  · obtain ⟨earlier, episode, later, hsplit, hframe⟩ := Episode.exists_split_of_mem_frames hmem
    rw [hsplit] at htrail
    obtain ⟨hserves, hdue, -, hsequence⟩ := htrail.frame_at hframe
    have hpassed := (hserves.timeOf_le hdue).2
    rw [hfresh.sequence_eq, Nat.zero_add] at hsequence
    rwa [List.length_map, ← hsequence] at hpassed

theorem frames_are_never_early_twoByTwo :
    let h := Host.assemble .inMemory .manual
    ∃ session w₀, start h .standard .desktop ⟨.twoByTwo, .startingAt 0⟩ = (.ok session, w₀) ∧
      ∃ frame ∈ Episode.frames (session.run h [.read 3, .read 3] w₀).1.1, frame.sequence = 1 ∧
        session.pacer.timeOf (session.pacer.deadline + (frame.sequence + 1) * frameUnits) ≤
          frame.pts := by
  intro h
  obtain ⟨session, w₀, hstart, hsequences⟩ := exists_started (h := h) .standard .desktop
    ⟨.twoByTwo, .startingAt 0⟩ (a := [0, 1]) (f := fun session w₀ ↦
      (Episode.frames (session.run h [.read 3, .read 3] w₀).1.1).map Frame.sequence)
    (by decide +kernel)
  obtain ⟨frame, hframe, hsequence⟩ : ∃ frame ∈ Episode.frames
      (session.run h [.read 3, .read 3] w₀).1.1, frame.sequence = 1 := by
    refine List.mem_map.mp ?_
    rw [hsequences]
    decide
  obtain ⟨-, hruns⟩ := frames_are_never_early h .standard .desktop _ w₀ session hstart
  obtain ⟨-, -, -, hpassed⟩ := hruns [.read 3, .read 3]
  exact ⟨session, w₀, hstart, frame, hframe, hsequence, hpassed frame hframe⟩

end ScreenCapture.Session

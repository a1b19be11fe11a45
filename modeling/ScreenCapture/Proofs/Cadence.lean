import ScreenCapture.Proofs.Frames
import ScreenCapture.Proofs.Waiting

namespace ScreenCapture

variable {ω : Type}

/-- A sleep takes exactly as long as it is asked to, wherever it ends at a time that can be told. -/
def Clock.SleepsExactly (clock : Clock ω) : Prop :=
  ∀ w micros, Micros.least ≤ (clock.now w).1 → 0 < micros →
    (clock.now w).1 + micros ≤ Micros.greatest →
      (clock.now (clock.sleep micros (clock.now w).2).2).1 = (clock.now w).1 + micros

theorem Clock.SleepsExactly.advancesExactly {clock : Clock ω} (hc : clock.SleepsExactly) :
    clock.AdvancesExactly Micros.greatest.toNat := by
  intro w micros hleast hpos hlong hgreatest
  have hstride : (Micros.greatest.toNat : Int) = Micros.greatest := rfl
  rw [hc w micros hleast hpos hgreatest]
  omega

theorem Clock.manual_sleepsExactly : manual.SleepsExactly :=
  fun clock _ hleast hpos hgreatest ↦ clock.now_sleep hleast hpos hgreatest

theorem Host.assemble_sleepsExactly {δ κ : Type} {screen : Screen δ} {clock : Clock κ}
    (hc : clock.SleepsExactly) : (Host.assemble screen clock).SleepsExactly :=
  fun w ↦ hc w.clock

variable {h : Host ω}

namespace Episode

def arrival (h : Host ω) (episode : Episode ω) : Int :=
  (h.now (episode.before.pump h episode.world).2).1

def due (episode : Episode ω) : Int := episode.before.pacer.due

/-- The read begins one interval after the frame is due, or earlier, and both times can be told. -/
structure InTime (h : Host ω) (episode : Episode ω) : Prop where
  least_le : Micros.least ≤ episode.arrival h
  le_greatest : episode.due ≤ Micros.greatest
  lateness_le : (episode.arrival h - episode.due) * episode.before.pacer.rate.num ≤
    frameUnits * episode.before.pacer.rate.den

instance (h : Host ω) (episode : Episode ω) : Decidable (episode.InTime h) :=
  decidable_of_iff (Micros.least ≤ episode.arrival h ∧ episode.due ≤ Micros.greatest ∧
      (episode.arrival h - episode.due) * episode.before.pacer.rate.num ≤
        frameUnits * episode.before.pacer.rate.den)
    ⟨fun ⟨hl, hg, hn⟩ ↦ ⟨hl, hg, hn⟩, fun ⟨hl, hg, hn⟩ ↦ ⟨hl, hg, hn⟩⟩

end Episode

namespace Session

/-- On an exact clock the wait ends when the frame is due, or at once if that has passed. A single
sleep is enough unless it is longer than the longest time that can be told. -/
theorem await_exact (hexact : h.SleepsExactly) (pacer : Pacer) {patience : Nat}
    (hpatience : 3 ≤ patience) (w : ω) (hleast : Micros.least ≤ (h.now w).1)
    (hgreatest : pacer.due ≤ Micros.greatest) :
    let now := max (h.now w).1 pacer.due
    (await h pacer false patience w).1 = .due (pacer.schedule now) now := by
  have hclock := hexact.advancesExactly
  have hthree : pacer.due - (h.now w).1 ≤ (3 : Nat) * (Micros.greatest.toNat : Int) := by
    simp only [Micros.least, Micros.greatest] at hleast hgreatest ⊢
    omega
  obtain ⟨times, now, w', hw, hlength⟩ :=
    exists_wait hclock.advances (by decide) hgreatest 3 w hleast hthree
  obtain ⟨-, rfl⟩ := hw.of_exact hclock (by decide) (by decide) hgreatest hleast
  rw [hw.await_eq (hlength.trans hpatience)]

theorem read_exact (hexact : h.SleepsExactly) {session : Session} {patience : Nat} {w : ω}
    (hblocking : session.options.nonblocking = false) (hpatience : 3 ≤ patience)
    (hfailed : ∀ failure, (session.read h patience w).1.1 ≠ .ofFailure failure)
    (hleast : Micros.least ≤ (h.now (session.pump h w).2).1)
    (hgreatest : session.pacer.due ≤ Micros.greatest) :
    ∃ frame, (session.read h patience w).1.1 = .frame frame ∧
      frame.pts = max (h.now (session.pump h w).2).1 session.pacer.due := by
  have hopen : ¬ session.IsClosed := fun hc ↦
    hfailed (.error .closed) (by rw [read_of_isClosed hc]; rfl)
  have hwait := await_exact hexact session.pacer hpatience _ hleast hgreatest
  generalize max (h.now (session.pump h w).2).1 session.pacer.due = now at hwait ⊢
  rcases hw : await h session.pacer session.options.nonblocking patience (session.pump h w).2
    with ⟨waiting, w'⟩
  rw [← hblocking, hw] at hwait
  obtain rfl : waiting = .due (session.pacer.schedule now) now := hwait
  have htick := session.tick_gives (h := h) now (schedule_of_await hw).2 w'
  rw [read_of_due hopen hw] at hfailed ⊢
  rcases ht : session.tick h (session.pacer.schedule now) now w' with ⟨⟨failure | frame, after⟩, w''⟩
  · rw [ht] at hfailed
    exact absurd rfl (hfailed failure)
  · rw [ht] at htick
    exact ⟨frame, rfl, htick.1⟩

theorem run_exact (hexact : h.SleepsExactly) {session : Session} {steps : List (Step ω)} {w : ω}
    (hblocking : session.options.nonblocking = false)
    (hpatience : ∀ patience, .read patience ∈ steps → 3 ≤ patience)
    (hfailed : ∀ episode ∈ (session.run h steps w).1.1, ∀ failure,
      episode.reading ≠ .ofFailure failure)
    (htimely : ∀ episode ∈ (session.run h steps w).1.1, episode.InTime h)
    {episode : Episode ω} (he : episode ∈ (session.run h steps w).1.1) :
    ∃ frame, episode.reading = .frame frame ∧
      frame.pts = max (episode.arrival h) episode.due ∧
      episode.after.pacer.deadline = episode.before.pacer.deadline + frameUnits := by
  obtain ⟨patience, hmem, hread⟩ := run_episode h he
  obtain ⟨earlier, later, hsplit⟩ := List.append_of_mem he
  have htrail := session.run_trail h steps w
  rw [hsplit] at htrail
  have hoptions : episode.before.options.nonblocking = false := by
    rw [htrail.split.1.settings_eq.1, hblocking]
  have hreading : (episode.before.read h patience episode.world).1.1 = episode.reading := by
    rw [hread]
  have htime := htimely episode he
  obtain ⟨frame, hframe, hpts⟩ := read_exact hexact hoptions (hpatience patience hmem)
    (hreading ▸ hfailed episode he) htime.least_le htime.le_greatest
  rw [hreading] at hframe
  have hpts : frame.pts = max (episode.arrival h) episode.due := hpts
  refine ⟨frame, hframe, hpts, ?_⟩
  rw [(htrail.frame_at hframe).2.2.1]
  refine episode.before.pacer.schedule_deadline_of_timely ?_
  change (frame.pts - episode.due) * _ ≤ _
  rw [hpts]
  rcases Int.le_total (episode.arrival h) episode.due with hearly | hlate
  · rw [Int.max_eq_right hearly, Int.sub_self, Int.zero_mul]
    exact Int.mul_nonneg frameUnits_pos.le episode.before.pacer.rate.den_cast_pos.le
  · rw [Int.max_eq_left hlate]
    exact htime.lateness_le

/-- A session that blocks, on a clock that sleeps exactly, skips nothing as long as no tick fails
and every read begins in time: frame `k` is taken when deadline `k + 1` of the first timeline has
come, or when its read began if that is later. That deadline is off the ideal time by less than two
roundings, however large `k` is. Three sleeps are enough for any wait. -/
theorem cadence_does_not_drift (h : Host ω) (hexact : h.SleepsExactly) (options : CaptureOptions)
    (hblocking : options.nonblocking = false) (target : CaptureTarget) (w w₀ : ω)
    (session : Session) (hstart : start h options target w = (.ok session, w₀)) :
    (∃ w', session.pacer = .start options.frameRate (h.now w').1) ∧
    ∀ started : Int, 0 ≤ started → session.pacer = .start options.frameRate started →
      ∀ steps : List (Step ω), (∀ patience, .read patience ∈ steps → 3 ≤ patience) →
        let episodes := (session.run h steps w₀).1.1
        let last := (session.run h steps w₀).1.2
        (∀ episode ∈ episodes, ∀ failure, episode.reading ≠ .ofFailure failure) →
        (∀ episode ∈ episodes, episode.InTime h) →
          (Episode.frames episodes).map Frame.sequence = List.range episodes.length ∧
          last.pacer.deadline = session.pacer.deadline + episodes.length * frameUnits ∧
          ∀ episode ∈ episodes, ∃ frame, episode.reading = .frame frame ∧
            episode.after.pacer.deadline = episode.before.pacer.deadline + frameUnits ∧
            let k := frame.sequence
            let due := session.pacer.timeOf (session.pacer.deadline + (k + 1) * frameUnits)
            let offset := (due - started) * options.frameRate.num -
              (k + 1) * frameUnits * options.frameRate.den
            frame.pts = max (episode.arrival h) due ∧ offset ≤ 0 ∧
            -(options.frameRate.num + options.frameRate.den : Int) < offset := by
  have hfresh : Fresh h options session := start_answers options target w session (by rw [hstart])
  refine ⟨hfresh.pacer_eq, fun started hpos hstarted steps hpatience ↦ ?_⟩
  intro episodes last hfailed htimely
  have hsteady {episode : Episode ω} (he : episode ∈ episodes) :=
    run_exact hexact (hfresh.nonblocking_eq.trans hblocking) hpatience hfailed htimely he
  have htrail : Trail session episodes last := session.run_trail h steps w₀
  have hframes {episodes' : List (Episode ω)} (hsub : ∀ episode ∈ episodes', episode ∈ episodes) :
      (Episode.frames episodes').length = episodes'.length :=
    Episode.length_frames fun episode he ↦ (hsteady (hsub episode he)).imp fun _ hf ↦ hf.1
  have hmoves (episode : Episode ω) (he : episode ∈ episodes) :
      episode.after.pacer.deadline = episode.before.pacer.deadline + frameUnits := by
    obtain ⟨_, _, _, hmove⟩ := hsteady he
    exact hmove
  refine ⟨?_, htrail.deadline_of_steady hmoves, fun episode he ↦ ?_⟩
  · rw [htrail.sequences.1, hfresh.sequence_eq, hframes fun _ he ↦ he, List.range_eq_range']
  · obtain ⟨frame, hframe, hpts, hmove⟩ := hsteady he
    obtain ⟨earlier, later, hsplit⟩ := List.append_of_mem he
    rw [hsplit] at htrail
    have hsub (episode' : Episode ω) (he' : episode' ∈ earlier) : episode' ∈ episodes :=
      hsplit ▸ List.mem_append_left _ he'
    have hbefore := htrail.split.1
    have hdeadline := hbefore.deadline_of_steady fun episode' he' ↦
      hmoves episode' (hsub episode' he')
    have hk : frame.sequence = earlier.length := by
      rw [(htrail.frame_at hframe).2.2.2, hfresh.sequence_eq, hframes hsub, Nat.zero_add]
    refine ⟨frame, hframe, hmove, ?_⟩
    intro k due offset
    have hnext : session.pacer.deadline + (k + 1) * frameUnits =
        episode.before.pacer.deadline + frameUnits := by
      rw [hdeadline, ← hk]
      ring
    have hdue : due = episode.due := by
      rw [Episode.due, Pacer.due, ← hnext, Pacer.timeOf, hbefore.serves.rate_eq]
      rfl
    refine ⟨hdue ▸ hpts, ?_⟩
    have hbound := Pacer.timeOf_start_add options.frameRate hpos (k + 1)
    rw [← hstarted, Nat.cast_succ] at hbound
    exact hbound

theorem cadence_does_not_drift_twoByTwo :
    let h := Host.assemble .inMemory .manual
    let delay (micros : Int) : Step (World MemoryDisplay ManualClock) :=
      .drift fun w ↦ { w with clock := w.clock.advance micros }
    let steps := [.read 3, delay 1000, .read 3, delay 40000, .read 3]
    ∃ session w₀, start h .standard .desktop ⟨.twoByTwo, .startingAt 1000⟩ = (.ok session, w₀) ∧
      (Episode.frames (session.run h steps w₀).1.1).map Frame.sequence = [0, 1, 2] ∧
      (session.run h steps w₀).1.2.pacer.deadline = session.pacer.deadline + 3 * frameUnits := by
  intro h delay steps
  obtain ⟨session, w₀, hstart, heval⟩ := exists_started (h := h) .standard .desktop
    ⟨.twoByTwo, .startingAt 1000⟩ (a := (.start .ntsc 1000, 3, true)) (f := fun session w₀ ↦
      let episodes := (session.run h steps w₀).1.1
      (session.pacer, episodes.length, episodes.all fun episode ↦
        episode.frame?.isSome && decide (episode.InTime h)))
    (by decide +kernel)
  obtain ⟨hpacer, hlength, hall⟩ : session.pacer = .start .ntsc 1000 ∧
      (session.run h steps w₀).1.1.length = 3 ∧ _ = true := by
    simpa only [Prod.mk.injEq] using heval
  have hgood (episode) (he : episode ∈ (session.run h steps w₀).1.1) :
      (∀ failure, episode.reading ≠ .ofFailure failure) ∧ episode.InTime h := by
    obtain ⟨hf, ht⟩ := Bool.and_eq_true_iff.mp (List.all_eq_true.mp hall episode he)
    refine ⟨fun failure hr ↦ ?_, of_decide_eq_true ht⟩
    rw [Episode.frame?, hr] at hf
    cases failure <;> cases hf
  obtain ⟨-, hruns⟩ := cadence_does_not_drift h
    (Host.assemble_sleepsExactly Clock.manual_sleepsExactly) .standard rfl .desktop _ w₀ session
    hstart
  obtain ⟨hsequences, hdeadline, -⟩ := hruns 1000 (by decide) hpacer steps
    (by simp [steps, delay]) (fun episode he ↦ (hgood episode he).1)
    (fun episode he ↦ (hgood episode he).2)
  rw [hlength] at hsequences hdeadline
  exact ⟨session, w₀, hstart, hsequences, hdeadline⟩

end Session

end ScreenCapture

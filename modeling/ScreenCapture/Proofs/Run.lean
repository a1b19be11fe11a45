import ScreenCapture.Proofs.Pacing
import ScreenCapture.Proofs.Reading
import Mathlib.Data.List.Forall2

namespace ScreenCapture

variable {ω : Type}

/-- What comes next in the life of a session. -/
inductive Step (ω : Type)
  | read (patience : Nat)
  | close
  | drift (change : ω → ω)

/-- The same step on both sides, where `P` relates what the two worlds do by themselves. -/
inductive Step.Related {ω' : Type} (P : ∀ ⦃α : Type⦄, StateM ω α → StateM ω' α → Prop) :
    Step ω → Step ω' → Prop
  | read (patience : Nat) : Related P (.read patience) (.read patience)
  | close : Related P .close .close
  | drift {change : ω → ω} {change' : ω' → ω'} :
    P (modify change) (modify change') → Related P (.drift change) (.drift change')

theorem Step.related_map {ω' : Type} {P : ∀ ⦃α : Type⦄, StateM ω α → StateM ω' α → Prop}
    {f : Step ω' → Step ω} (hf : ∀ step, Step.Related P (f step) step) {steps : List (Step ω')} :
    List.Forall₂ (Step.Related P) (steps.map f) steps :=
  List.forall₂_map_left_iff.mpr (List.forall₂_same.mpr fun step _ ↦ hf step)

/-- A read of a run, with the world and the session that it found and the session that it left. -/
structure Episode (ω : Type) where
  world : ω
  before : Session
  reading : Reading
  after : Session

namespace Episode

def frame? (episode : Episode ω) : Option Frame := episode.reading.frame?

def frames (episodes : List (Episode ω)) : List Frame := episodes.filterMap frame?

theorem frames_cons_of_frame {episode : Episode ω} {frame : Frame}
    (he : episode.reading = .frame frame) (episodes : List (Episode ω)) :
    frames (episode :: episodes) = frame :: frames episodes := by
  simp [frames, frame?, Reading.frame?, he]

theorem frames_cons_of_ne {episode : Episode ω} (he : ∀ frame, episode.reading ≠ .frame frame)
    (episodes : List (Episode ω)) : frames (episode :: episodes) = frames episodes := by
  rcases episode with ⟨_, _, frame | _ | _ | _, _⟩
  · exact absurd rfl (he frame)
  · rfl
  · rfl
  · rfl

theorem exists_split_of_mem_frames {episodes : List (Episode ω)} {frame : Frame}
    (hf : frame ∈ frames episodes) : ∃ earlier episode later,
      episodes = earlier ++ episode :: later ∧ episode.reading = .frame frame := by
  obtain ⟨episode, hmem, he⟩ := List.mem_filterMap.mp hf
  obtain ⟨earlier, later, hsplit⟩ := List.append_of_mem hmem
  refine ⟨earlier, episode, later, hsplit, ?_⟩
  rcases episode with ⟨_, _, frame' | _ | _ | _, _⟩
  · exact congrArg Reading.frame (Option.some.inj he)
  · cases he
  · cases he
  · cases he

theorem length_frames {episodes : List (Episode ω)}
    (hf : ∀ episode ∈ episodes, ∃ frame, episode.reading = .frame frame) :
    (frames episodes).length = episodes.length := by
  induction episodes with
  | nil => rfl
  | cons episode episodes ih =>
    obtain ⟨⟨frame, he⟩, hrest⟩ := List.forall_mem_cons.mp hf
    rw [frames_cons_of_frame he, List.length_cons, List.length_cons, ih hrest]

end Episode

namespace Session

variable (h : Host ω)

def run (session : Session) : List (Step ω) → StateM ω (List (Episode ω) × Session)
  | [] => return ([], session)
  | .drift change :: steps => do
    modify change
    run session steps
  | .close :: steps => do
    let session ← session.close h
    run session steps
  | .read patience :: steps => do
    let world ← get
    let (reading, after) ← session.read h patience
    let (episodes, last) ← run after steps
    return (⟨world, session, reading, after⟩ :: episodes, last)

/-- A run at the end of which the session is dropped, which closes it. -/
def live (session : Session) (steps : List (Step ω)) : StateM ω (List (Episode ω)) := do
  let (episodes, session) ← run h session steps
  let _ ← session.close h
  return episodes

section

variable (session : Session) (steps : List (Step ω)) (w : ω)

theorem run_close : session.run h (.close :: steps) w =
    (session.close h w).1.run h steps (session.close h w).2 := rfl

theorem run_read (patience : Nat) : session.run h (.read patience :: steps) w =
    let r := session.read h patience w
    let rest := r.1.2.run h steps r.2
    ((⟨w, session, r.1.1, r.1.2⟩ :: rest.1.1, rest.1.2), rest.2) := rfl

end

theorem close_gives (session : Session) : Gives (session.close h) fun closed ↦
    closed = { session with held := [] } := by
  unfold close
  split
  · next hc => exact .pure (by rw [← show session.held = [] from hc])
  · exact .bind (.any _) fun _ _ ↦ .bind (.any _) fun _ _ ↦ .pure rfl

theorem run_episode {session : Session} {steps : List (Step ω)} {w : ω} {episode : Episode ω}
    (he : episode ∈ (session.run h steps w).1.1) : ∃ patience, .read patience ∈ steps ∧
      (episode.before.read h patience episode.world).1 = (episode.reading, episode.after) := by
  induction steps generalizing session w with
  | nil => cases he
  | cons step steps ih =>
    cases step with
    | drift change =>
      obtain ⟨patience, hmem, hread⟩ := ih he
      exact ⟨patience, List.mem_cons_of_mem _ hmem, hread⟩
    | close =>
      obtain ⟨patience, hmem, hread⟩ := ih he
      exact ⟨patience, List.mem_cons_of_mem _ hmem, hread⟩
    | read patience =>
      rcases List.mem_cons.mp he with rfl | hrest
      · exact ⟨patience, List.mem_cons_self, rfl⟩
      · obtain ⟨patience', hmem, hread⟩ := ih hrest
        exact ⟨patience', List.mem_cons_of_mem _ hmem, hread⟩

/-- What the user of a session sees of a run, and the session at the end. -/
def outcomes (session : Session) (steps : List (Step ω)) :
    StateM ω (List (Reading × Session) × Session) := do
  let (episodes, last) ← run h session steps
  return (episodes.map fun episode ↦ (episode.reading, episode.after), last)

/-- Reads that follow each other, with closes of the session in between. -/
inductive Trail : Session → List (Episode ω) → Session → Prop
  | nil (session : Session) : Trail session [] session
  | close {session last : Session} {episodes : List (Episode ω)} :
    Trail { session with held := [] } episodes last → Trail session episodes last
  | read {session after last : Session} {reading : Reading} {episodes : List (Episode ω)} (w : ω) :
    session.Turn reading after → Trail after episodes last →
      Trail session (⟨w, session, reading, after⟩ :: episodes) last

theorem run_trail (session : Session) (steps : List (Step ω)) (w : ω) :
    Trail session (session.run h steps w).1.1 (session.run h steps w).1.2 := by
  induction steps generalizing session w with
  | nil => exact .nil session
  | cons step steps ih =>
    cases step with
    | drift change => exact ih session (change w)
    | close =>
      have hc : (session.close h w).1 = _ := session.close_gives h w
      rw [run_close, hc]
      exact .close (ih _ _)
    | read patience => exact .read w (read_turn patience w) (ih _ _)

namespace Trail

variable {session last : Session} {episodes : List (Episode ω)}

theorem split {earlier later : List (Episode ω)} {episode : Episode ω}
    (ht : Trail session (earlier ++ episode :: later) last) :
    Trail session earlier episode.before ∧ episode.before.Turn episode.reading episode.after ∧
      Trail episode.after later last := by
  generalize he : earlier ++ episode :: later = episodes at ht
  induction ht generalizing earlier with
  | nil session => simp at he
  | close _ ih =>
    obtain ⟨hbefore, hturn, hafter⟩ := ih he
    exact ⟨.close hbefore, hturn, hafter⟩
  | read w hturn hrest ih =>
    cases earlier with
    | nil =>
      obtain ⟨rfl, rfl⟩ := List.cons.inj he
      exact ⟨.nil _, hturn, hrest⟩
    | cons first earlier =>
      obtain ⟨rfl, hrest'⟩ := List.cons.inj he
      obtain ⟨hbefore, hturn', hafter⟩ := ih hrest'
      exact ⟨.read w hturn hbefore, hturn', hafter⟩

theorem serves (ht : Trail session episodes last) :
    session.pacer.Serves ((Episode.frames episodes).map Frame.pts) last.pacer := by
  induction ht with
  | nil session => exact .nil session.pacer
  | close _ ih => exact ih
  | read w hturn _ ih =>
    cases hturn with
    | idle reported hr =>
      rw [Episode.frames_cons_of_ne hr]
      exact ih
    | taken reported hd hs =>
      rw [Episode.frames_cons_of_frame rfl]
      exact .cons hd ih

theorem sequences (ht : Trail session episodes last) :
    (Episode.frames episodes).map Frame.sequence =
        List.range' session.sequence (Episode.frames episodes).length ∧
      last.sequence = session.sequence + (Episode.frames episodes).length := by
  induction ht with
  | nil session => exact ⟨rfl, rfl⟩
  | close _ ih => exact ih
  | read w hturn _ ih =>
    obtain ⟨hframes, hlast⟩ := ih
    cases hturn with
    | idle reported hr =>
      rw [Episode.frames_cons_of_ne hr]
      exact ⟨hframes, hlast⟩
    | taken reported hd hs =>
      rw [Episode.frames_cons_of_frame rfl, List.map_cons, List.length_cons, List.range'_succ, hs,
        hframes, hlast]
      exact ⟨rfl, Nat.add_right_comm _ _ _⟩

theorem settings_eq (ht : Trail session episodes last) : last.options = session.options ∧
    last.target = session.target ∧ last.layout = session.layout := by
  induction ht with
  | nil session => exact ⟨rfl, rfl, rfl⟩
  | close _ ih => exact ih
  | read w hturn _ ih =>
    cases hturn with
    | idle reported hr => exact ih
    | taken reported hd hs => exact ih

theorem outlook_eq (ht : Trail session episodes last) : last.topology = session.topology ∧
    last.overlay.map PointerOverlay.placement = session.overlay.map PointerOverlay.placement := by
  have hreporting (session : Session) (reported : Bool) :
      (session.reporting reported).overlay.map PointerOverlay.placement =
        session.overlay.map PointerOverlay.placement := Option.map_map ..
  induction ht with
  | nil session => exact ⟨rfl, rfl⟩
  | close _ ih => exact ih
  | @read session after last reading episodes w hturn _ ih =>
    cases hturn with
    | idle reported hr => exact ⟨ih.1, ih.2.trans (hreporting session reported)⟩
    | taken reported hd hs => exact ⟨ih.1, ih.2.trans (hreporting session reported)⟩

theorem exists_before {episode : Episode ω} (ht : Trail session episodes last)
    (he : episode ∈ episodes) : ∃ earlier : List (Episode ω), Trail session earlier episode.before := by
  obtain ⟨earlier, later, rfl⟩ := List.append_of_mem he
  exact ⟨earlier, ht.split.1⟩

theorem deadline_of_steady (ht : Trail session episodes last)
    (hs : ∀ episode ∈ episodes,
      episode.after.pacer.deadline = episode.before.pacer.deadline + frameUnits) :
    last.pacer.deadline = session.pacer.deadline + episodes.length * frameUnits := by
  induction ht with
  | nil session => simp
  | close _ ih => exact ih hs
  | @read session after last reading episodes w _ _ ih =>
    obtain ⟨hfirst, hrest⟩ := List.forall_mem_cons.mp hs
    have hfirst : after.pacer.deadline = session.pacer.deadline + frameUnits := hfirst
    rw [ih hrest, hfirst, List.length_cons, Nat.cast_succ, Int.add_mul, Int.one_mul]
    omega

/-- Only the frames before a frame decide when it is due and which number it has. -/
theorem frame_at {earlier later : List (Episode ω)} {episode : Episode ω} {frame : Frame}
    (ht : Trail session (earlier ++ episode :: later) last)
    (he : episode.reading = .frame frame) :
    session.pacer.Serves ((Episode.frames earlier).map Frame.pts) episode.before.pacer ∧
      (episode.before.pacer.schedule frame.pts).IsDue ∧
      episode.after.pacer =
        episode.before.pacer.commit (episode.before.pacer.schedule frame.pts) ∧
      frame.sequence = session.sequence + (Episode.frames earlier).length := by
  obtain ⟨hbefore, hturn, -⟩ := ht.split
  rw [he] at hturn
  obtain ⟨hdue, hafter, hsequence⟩ := hturn.of_frame
  exact ⟨hbefore.serves, hdue, hafter, hsequence.trans hbefore.sequences.2⟩

end Trail

variable {h} {ω' : Type} {h' : Host ω'} {P : ∀ ⦃α : Type⦄, StateM ω α → StateM ω' α → Prop}

theorem outcomes_related {session : Session} (hr : h.Related h' P session.Makes)
    {steps : List (Step ω)} {steps' : List (Step ω')}
    (hs : List.Forall₂ (Step.Related P) steps steps') :
    P (session.outcomes h steps) (session.outcomes h' steps') := by
  have hP := hr.composes
  induction hs generalizing session with
  | nil => exact hP.pure _
  | @cons step step' steps steps' hstep _ ih =>
    cases hstep with
    | read patience =>
      change P (session.read h patience >>= fun (reading, after) ↦ do
          let (rest, last) ← after.outcomes h steps
          return ((reading, after) :: rest, last))
        (session.read h' patience >>= fun (reading, after) ↦ do
          let (rest, last) ← after.outcomes h' steps'
          return ((reading, after) :: rest, last))
      have hasks : h.Related h' P session.Asks := hr.mono fun _ ↦ .inl
      refine hP.bind (read_related hasks patience) fun w ↦ ?_
      refine hP.bind (ih (hr.mono fun call hc ↦ ?_)) fun _ ↦ hP.pure _
      rwa [(read_turn patience w).makes_eq] at hc
    | close =>
      change P (session.close h >>= fun closed ↦ closed.outcomes h steps)
        (session.close h' >>= fun closed ↦ closed.outcomes h' steps')
      refine hP.bind (close_related (hr.mono fun _ ↦ .inr)) fun w ↦ ?_
      rw [session.close_gives h w]
      exact ih hr
    | @drift change change' hchange =>
      change P (modify change >>= fun _ ↦ session.outcomes h steps)
        (modify change' >>= fun _ ↦ session.outcomes h' steps')
      exact hP.bind hchange fun _ ↦ ih hr

end Session

end ScreenCapture

import ScreenCapture.Clock.Manual
import ScreenCapture.Display.InMemory
import ScreenCapture.Proofs.Opening
import ScreenCapture.Proofs.Trace

namespace ScreenCapture

variable {ω ε α β : Type} {h : Host ω}

open Traced

def Moves (act : ExceptT ε (StateM (Traced ω)) α) (Q : Except ε α → List Handover → Prop) : Prop :=
  ∀ s, ∃ moved, (act s).2.handovers = s.handovers ++ moved ∧ Q (act s).1 moved

/-- `act` acquires the resource if it succeeds, and nothing otherwise. -/
def Acquires (resource : Resource) (act : Attempt (Traced ω) PUnit) : Prop :=
  Moves act fun result moved ↦ moved = if result.isOk then [.acquired resource] else []

theorem acquires_attempt {resource : Resource} {call : Call} (act : Attempt ω PUnit)
    (hc : ∀ ok, Event.handover? ⟨call, ok⟩ = if ok then some (.acquired resource) else none) :
    Acquires resource (Traced.attempt call act) := by
  intro s
  refine ⟨_, handovers_add _ _ _, ?_⟩
  rw [hc]
  change _ = if (act s.world).1.isOk then _ else _
  split <;> rfl

theorem openSource_acquires (handle : TargetHandle) :
    Acquires .source (h.traced.openSource handle) :=
  acquires_attempt (h.openSource handle) fun ok ↦ by cases ok <;> rfl

theorem allocateSurface_acquires (layout : BitmapLayout) :
    Acquires .surface (h.traced.allocateSurface layout) :=
  acquires_attempt (h.allocateSurface layout) fun ok ↦ by cases ok <;> rfl

theorem createOutline_acquires (rect : Rect) :
    Acquires .outline (h.traced.createOutline rect) :=
  acquires_attempt (h.createOutline rect) fun ok ↦ by cases ok <;> rfl

theorem release_handovers (resource : Resource) (s : Traced ω) :
    (h.traced.release resource s).2.handovers = s.handovers ++ [.released resource] :=
  handovers_add _ _ _

namespace Moves

variable {P : α → Prop} {Q : Except ε β → List Handover → Prop}

theorem lift {act : StateM (Traced ω) α} {act' : StateM ω α}
    {Q : Except ε α → List Handover → Prop} (hr : Records Call.LeavesHands act act')
    (hg : Gives act P) (hq : ∀ a, P a → Q (.ok a) []) :
    Moves (liftM act : ExceptT ε (StateM (Traced ω)) α) Q :=
  fun s ↦ ⟨[], (hr.handovers_eq s).trans (List.append_nil _).symm, hq _ (hg s)⟩

theorem quietly {act : ExceptT ε (StateM (Traced ω)) α} {act' : ExceptT ε (StateM ω) α}
    {next : α → ExceptT ε (StateM (Traced ω)) β} (hk : Records Call.LeavesHands act.run act'.run)
    (ha : Answers act P) (he : ∀ error, Q (.error error) [])
    (hn : ∀ a, P a → Moves (next a) Q) : Moves (act >>= next) Q := by
  intro s
  have hs : (act s).2.handovers = s.handovers := hk.handovers_eq s
  rw [Attempt.bind_apply]
  rcases hr : act s with ⟨error | a, s'⟩
  · rw [hr] at hs
    exact ⟨[], hs.trans (List.append_nil _).symm, he error⟩
  · rw [hr] at hs
    obtain ⟨moved, hm, hq⟩ := hn a (ha s a (by rw [hr])) s'
    exact ⟨moved, hs ▸ hm, hq⟩

variable {Q : Except (Failure CaptureError) β → List Handover → Prop}

theorem acquiring {resource : Resource} {act : Attempt (Traced ω) PUnit}
    {next : PUnit → Procedure (Traced ω) β} (ha : Acquires resource act)
    (he : ∀ failure, Q (.error failure) [])
    (hn : Moves (next ⟨⟩) fun result moved ↦ Q result (.acquired resource :: moved)) :
    Moves (liftM act >>= next : Procedure (Traced ω) β) Q := by
  intro s
  obtain ⟨taken, hs, ht⟩ := ha s
  rw [Attempt.bind_apply, Attempt.embed_apply]
  rcases hr : act s with ⟨error | _, s'⟩
  · rw [hr] at hs ht
    subst ht
    exact ⟨[], hs, he (.error error)⟩
  · rw [hr] at hs ht
    subst ht
    obtain ⟨moved, hm, hq⟩ := hn s'
    exact ⟨.acquired resource :: moved, hm.trans (by rw [hs, List.append_assoc]; rfl), hq⟩

theorem holding {resource : Resource} {act : Procedure (Traced ω) β}
    (ha : Moves act fun result moved ↦
      Q result (if result.isOk then moved else moved ++ [.released resource])) :
    Moves (h.traced.holding resource act) Q := by
  intro s
  obtain ⟨moved, hm, hq⟩ := ha s
  rw [Host.holding_apply]
  rcases hr : act s with ⟨failure | b, s'⟩
  · rw [hr] at hm hq
    refine ⟨moved ++ [.released resource], ?_, hq⟩
    rw [release_handovers, hm, List.append_assoc]
  · rw [hr] at hm hq
    exact ⟨moved, hm, hq⟩

end Moves

namespace Session

/-- What was acquired is held by the session, or was given back in reverse order. -/
def Settled (options : CaptureOptions) (target : CaptureTarget) :
    Except (Failure CaptureError) Session → List Handover → Prop
  | .ok session, moved =>
    session.held = (if options.showRegion ∧ target = .desktop then [.outline, .surface, .source]
      else [.surface, .source]) ∧
    moved = session.held.reverse.map .acquired
  | .error _, moved => ∃ taken ∈ [[], [Resource.source], [.source, .surface]],
    moved = taken.map .acquired ++ taken.reverse.map .released

theorem start_moves (options : CaptureOptions) (target : CaptureTarget) :
    Moves (start h.traced options target) (Settled options target) := by
  have hquery : h.traced.Related h (Records Call.LeavesHands) Call.IsQuery :=
    h.traced_related Call.IsQuery.leavesHands
  have hP := hquery.composes
  -- each call that may fail leaves by one of three ways, as nothing, the source, or the source and
  -- its surface were acquired by then
  have hnone (failure : Failure CaptureError) : Settled options target (.error failure) [] :=
    ⟨[], by simp, rfl⟩
  have hsource (failure : Failure CaptureError) : Settled options target (.error failure)
      [.acquired .source, .released .source] := ⟨[.source], by simp, rfl⟩
  have hsurface (failure : Failure CaptureError) : Settled options target (.error failure)
      [.acquired .source, .acquired .surface, .released .surface, .released .source] :=
    ⟨[.source, .surface], by simp, rfl⟩
  refine .quietly (hP.embed (Host.findTarget_related hquery target))
    (.embed (findTarget_answers target)) hnone fun handle hh ↦ ?_
  refine .quietly (hP.lift (settle_related hquery options handle)) (.lift (settle_gives _ _)) hnone
    fun settled hs ↦ ?_
  refine .acquiring (openSource_acquires handle) hnone (.holding ?_)
  refine .quietly (hP.lift (hquery.call .depth trivial)) (.any _) hsource fun depth _ ↦ ?_
  refine .quietly (hP.embed (Host.resolveTopology_related hquery)) (.any _) hsource
    fun topology _ ↦ ?_
  refine .quietly (Host.resolveTarget_related hquery _ _ _ _) (.any _) hsource fun resolved _ ↦ ?_
  refine .quietly (hP.result _) (.any _) hsource fun layout _ ↦ ?_
  refine .acquiring (allocateSurface_acquires layout) hsource (.holding ?_)
  have hshown : settled.showRegion = true ↔ options.showRegion = true ∧ target = .desktop := by
    simp [hs, hh]
  have hsetUp := setUp_related hquery settled topology resolved layout
  split
  · next hr =>
    refine .acquiring (createOutline_acquires _) hsurface ?_
    refine .lift hsetUp (setUp_gives _ _ _ _) fun session ⟨_, hheld⟩ ↦ ?_
    rw [if_pos hr] at hheld
    exact ⟨by rw [hheld, if_pos (hshown.mp hr)], by rw [hheld]; rfl⟩
  · next hr =>
    refine .lift hsetUp (setUp_gives _ _ _ _) fun session ⟨_, hheld⟩ ↦ ?_
    rw [if_neg hr] at hheld
    exact ⟨by rw [hheld, if_neg (hshown.not.mp hr)], by rw [hheld]; rfl⟩

theorem release_all (held : List Resource) (s : Traced ω) :
    (held.forM h.traced.release s).2.handovers = s.handovers ++ held.map .released := by
  induction held generalizing s with
  | nil => exact (List.append_nil _).symm
  | cons resource held ih =>
    have hrest := ih (h.traced.release resource s).2
    rw [release_handovers, List.append_assoc] at hrest
    exact hrest

theorem close_of_isClosed {session : Session} (hc : session.IsClosed) (w : ω) :
    session.close h w = (session, w) := by
  unfold close
  rw [if_pos hc]
  rfl

theorem close_handovers (session : Session) (s : Traced ω) :
    (session.close h.traced s).2.handovers = s.handovers ++ session.held.map .released := by
  by_cases hc : session.IsClosed
  · rw [close_of_isClosed hc, show session.held = [] from hc]
    exact (List.append_nil _).symm
  · unfold close
    rw [if_neg hc]
    exact release_all session.held s

theorem close_held (session : Session) (w : ω) : (session.close h w).1.held = [] := by
  rw [session.close_gives h w]

theorem read_held (session : Session) (patience : Nat) (w : ω) :
    (session.read h patience w).1.2.held = session.held :=
  (read_turn patience w).held_eq

/-- What was handed over, together with the release of what is still held, is the same at every
point of a run. -/
theorem run_handovers (session : Session) (steps : List (Step ω)) (s : Traced ω) :
    (session.run h.traced (steps.map Step.traced) s).2.handovers ++
        (session.run h.traced (steps.map Step.traced) s).1.2.held.map .released =
      s.handovers ++ session.held.map .released := by
  induction steps generalizing session s with
  | nil => rfl
  | cons step steps ih =>
    cases step with
    | drift change => exact ih session { s with world := change s.world }
    | close =>
      have hrest := ih (session.close h.traced s).1 (session.close h.traced s).2
      rw [close_handovers, close_held, List.map_nil, List.append_nil] at hrest
      exact hrest
    | read patience =>
      have hread : Records Call.LeavesHands (session.read h.traced patience)
          (session.read h patience) := read_related (h.traced_related Asks.leavesHands) patience
      have hrest := ih (session.read h.traced patience s).1.2 (session.read h.traced patience s).2
      rw [hread.handovers_eq s, read_held] at hrest
      exact hrest

theorem run_held {session : Session} {steps : List (Step ω)} (hs : .close ∉ steps) (w : ω) :
    (session.run h steps w).1.2.held = session.held := by
  induction steps generalizing session w with
  | nil => rfl
  | cons step steps ih =>
    rw [List.mem_cons, not_or] at hs
    cases step with
    | drift change => exact ih hs.2 (change w)
    | close => exact absurd rfl hs.1
    | read patience => exact (ih hs.2 _).trans (read_held session patience w)

theorem run_of_isClosed {session : Session} (hc : session.IsClosed) (steps : List (Step ω))
    (s : Traced ω) :
    (session.run h.traced (steps.map Step.traced) s).2.events = s.events ∧
      (session.run h.traced (steps.map Step.traced) s).1.2 = session ∧
      ∀ episode ∈ (session.run h.traced (steps.map Step.traced) s).1.1,
        episode.reading = .failed .closed := by
  induction steps generalizing s with
  | nil => exact ⟨rfl, rfl, List.forall_mem_nil _⟩
  | cons step steps ih =>
    rw [List.map_cons]
    cases step with
    | drift change => exact ih { s with world := change s.world }
    | close =>
      rw [Step.traced, run_close, close_of_isClosed hc]
      exact ih s
    | read patience =>
      obtain ⟨hevents, hlast, hreadings⟩ := ih s
      rw [Step.traced, run_read, read_of_isClosed hc]
      exact ⟨hevents, hlast, List.forall_mem_cons.mpr ⟨rfl, hreadings⟩⟩

/-- A session acquires its source, the surface of the source and, for a part of the desktop that is
to be shown, an outline; if that fails, it gives back what it took, the latest first. Whatever is
read and closed afterwards, each resource is released once: by the first close, or else when the
session is dropped, the outline first and the source last. From then on nothing is called, and
every read fails. -/
theorem released_once_in_reverse_order (h : Host ω) (options : CaptureOptions)
    (target : CaptureTarget) (w : ω) :
    match start h.traced options target ⟨w, []⟩ with
    | (.error _, s) => ∃ taken ∈ [[], [Resource.source], [.source, .surface]],
        s.handovers = taken.map .acquired ++ taken.reverse.map .released
    | (.ok session, s) =>
      (session.held = if options.showRegion ∧ target = .desktop then [.outline, .surface, .source]
        else [.surface, .source]) ∧
      s.handovers = session.held.reverse.map .acquired ∧
      (∀ steps : List (Step ω), (session.live h.traced (steps.map Step.traced) s).2.handovers =
        s.handovers ++ session.held.map .released) ∧
      ∀ before after : List (Step ω), .close ∉ before →
        let opened := session.run h.traced (before.map Step.traced) s
        let closed := opened.1.2.close h.traced opened.2
        let rest := closed.1.live h.traced (after.map Step.traced) closed.2
        opened.2.handovers = s.handovers ∧
        closed.2.handovers = s.handovers ++ session.held.map .released ∧
        rest.2.events = closed.2.events ∧
        ∀ episode ∈ rest.1, episode.reading = .failed .closed := by
  obtain ⟨moved, hm, hq⟩ := start_moves (h := h) options target ⟨w, []⟩
  rcases hstart : start h.traced options target ⟨w, []⟩ with ⟨error | session, s⟩
  · rw [hstart] at hm hq
    obtain ⟨taken, ht, he⟩ := hq
    exact ⟨taken, ht, hm.trans he⟩
  · rw [hstart] at hm hq
    obtain ⟨hheld, he⟩ := hq
    refine ⟨hheld, hm.trans he, fun steps ↦ ?_, fun before after hb ↦ ?_⟩
    · exact (close_handovers _ _).trans (run_handovers session steps s)
    · intro opened closed rest
      have hopen : opened.1.2.held = session.held := run_held (Step.close_notMem_traced hb) s
      have hrun : opened.2.handovers ++ opened.1.2.held.map .released = _ :=
        run_handovers session before s
      have hclosed : closed.1.IsClosed := close_held _ _
      obtain ⟨hevents, hlast, hreadings⟩ := run_of_isClosed hclosed after closed.2
      refine ⟨?_, (close_handovers _ _).trans hrun, ?_, hreadings⟩
      · rw [hopen] at hrun
        exact List.append_cancel_right hrun
      · have hdrop := close_of_isClosed (h := h.traced) (hlast ▸ hclosed)
          (closed.1.run h.traced (after.map Step.traced) closed.2).2
        exact (congrArg (·.2.events) hdrop).trans hevents

theorem released_once_on_full_screen :
    let h := (Host.assemble .inMemory .manual).traced
    ∃ session s, start h { CaptureOptions.standard with showRegion := true } .desktop
        ⟨⟨.fullHD, .startingAt 0⟩, []⟩ = (.ok session, s) ∧
      .close ∉ [(.read 3 : Step (World MemoryDisplay ManualClock))] ∧
      s.handovers = [.acquired .source, .acquired .surface, .acquired .outline] ∧
      (session.live h [.read 3, .close, .read 0, .close] s).2.handovers =
        s.handovers ++ [.released .outline, .released .surface, .released .source] := by
  have hreleased := released_once_in_reverse_order (Host.assemble .inMemory .manual)
    { CaptureOptions.standard with showRegion := true } .desktop ⟨.fullHD, .startingAt 0⟩
  obtain ⟨session, s, hs⟩ : ∃ session s, start (Host.assemble .inMemory .manual).traced
      { CaptureOptions.standard with showRegion := true } .desktop
      ⟨⟨.fullHD, .startingAt 0⟩, []⟩ = (.ok session, s) := ⟨_, _, rfl⟩
  rw [hs] at hreleased
  obtain ⟨hheld, hacquired, -, hclose⟩ := hreleased
  have hheld : session.held = [.outline, .surface, .source] := hheld
  have hopen : .close ∉ [(.read 3 : Step (World MemoryDisplay ManualClock))] := by simp
  refine ⟨session, s, hs, hopen, ?_, ?_⟩
  · rw [hacquired, hheld]
    rfl
  · obtain ⟨-, hclosed, hevents, -⟩ := hclose [.read 3] [.read 0, .close] hopen
    rw [hheld] at hclosed
    exact (congrArg (·.filterMap Event.handover?) hevents).trans hclosed

end Session

end ScreenCapture

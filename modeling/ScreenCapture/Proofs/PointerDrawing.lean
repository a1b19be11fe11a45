import ScreenCapture.Proofs.Tick
import ScreenCapture.Proofs.Watching

namespace ScreenCapture

variable {ω α β : Type}

def PointerState.line (pointer : PointerState) (point : Point) : LogLine :=
  ⟨.trace, s!"Cursor pos ({pointer.position.x},{pointer.position.y}) -> ({point.x},{point.y})"⟩

namespace PointerOverlay

/-- Where the corner of the pointer's image comes to be, or why that is not known. -/
inductive Placing (topology : Topology) (rect : Rect) (pointer : PointerState) :
    Placement → List Reply → Except (Failure CaptureError) Point → Prop
  | desktop {scale : Scale} {point : Point} : pointer.onDesktop? scale rect = some point →
    Placing topology rect pointer (.desktop scale) [] (.ok point)
  | offDesktop {scale : Scale} : pointer.onDesktop? scale rect = none →
    Placing topology rect pointer (.desktop scale) [] (.error .overflow)
  | window (window : WindowId) {scale : Scale} {bounds : Rect} {point : Point} :
    pointer.onWindow? bounds.origin ((topology.scaleOf? bounds).getD scale) rect = some point →
    Placing topology rect pointer (.window window scale) [⟨.windowRect window, .ok bounds⟩]
      (.ok point)
  | offWindow (window : WindowId) {scale : Scale} {bounds : Rect} :
    pointer.onWindow? bounds.origin ((topology.scaleOf? bounds).getD scale) rect = none →
    Placing topology rect pointer (.window window scale) [⟨.windowRect window, .ok bounds⟩]
      (.error .overflow)
  | lost (window : WindowId) (scale : Scale) (error : CaptureError) :
    Placing topology rect pointer (.window window scale) [⟨.windowRect window, .error error⟩]
      (.error (.error (.overlay s!"couldn't get window rectangle: {error.message}")))

inductive Drawing (topology : Topology) (rect : Rect) (placement : Placement) :
    List Reply → List LogLine → Except (Failure CaptureError) Unit → Prop
  | unasked (error : CaptureError) :
    Drawing topology rect placement [⟨.pointer, .error error⟩] [] (.error (.error error.asOverlay))
  | hidden {pointer : PointerState} : pointer.visible = false →
    Drawing topology rect placement [⟨.pointer, .ok pointer⟩] [] (.ok ())
  | unplaced {pointer : PointerState} {placed : List Reply} {failure : Failure CaptureError} :
    pointer.visible = true → Placing topology rect pointer placement placed (.error failure) →
    Drawing topology rect placement (⟨.pointer, .ok pointer⟩ :: placed) [] (.error failure)
  | outside {pointer : PointerState} {placed : List Reply} {point : Point} :
    pointer.visible = true → Placing topology rect pointer placement placed (.ok point) →
    point ∉ Rect.mk 0 0 rect.width rect.height →
    Drawing topology rect placement (⟨.pointer, .ok pointer⟩ :: placed) [pointer.line point]
      (.ok ())
  | drawn {pointer : PointerState} {placed : List Reply} {point : Point} (result : Result Unit) :
    pointer.visible = true → Placing topology rect pointer placement placed (.ok point) →
    point ∈ Rect.mk 0 0 rect.width rect.height →
    Drawing topology rect placement
      (⟨.pointer, .ok pointer⟩ :: placed ++ [⟨.drawPointer point, result⟩]) [pointer.line point]
      (result.mapError fun error ↦ .error error.asOverlay)

/-- A failure is written to the log, unless there was one before. A call that breaks off leaves no
overlay. -/
inductive Stroke (topology : Topology) (rect : Rect) (overlay : PointerOverlay) :
    List Reply → List LogLine → Option PointerOverlay → Prop
  | fine {made : List Reply} {spoken : List LogLine} :
    Drawing topology rect overlay.placement made spoken (.ok ()) →
    Stroke topology rect overlay made spoken (some overlay)
  | broken {made : List Reply} {spoken : List LogLine} :
    Drawing topology rect overlay.placement made spoken (.error .overflow) →
    Stroke topology rect overlay made spoken none
  | silent {made : List Reply} {spoken : List LogLine} {error : CaptureError} :
    Drawing topology rect overlay.placement made spoken (.error (.error error)) →
    overlay.reported = true → Stroke topology rect overlay made spoken (some overlay)
  | warned {made : List Reply} {spoken : List LogLine} {error : CaptureError} :
    Drawing topology rect overlay.placement made spoken (.error (.error error)) →
    overlay.reported = false →
    Stroke topology rect overlay made (spoken ++ [⟨.warn, error.message⟩])
      (some { overlay with reported := true })

variable (h : Host ω)

theorem position_accounts (topology : Topology) (rect : Rect) (pointer : PointerState)
    (placement : Placement) :
    Accounts (position h.watched topology rect pointer placement).run fun made spoken result ↦
      spoken = [] ∧ Placing topology rect pointer placement made result := by
  cases placement with
  | desktop scale =>
    rw [position]
    cases hp : pointer.onDesktop? scale rect with
    | none => exact .pure ⟨rfl, .offDesktop hp⟩
    | some point => exact .pure ⟨rfl, .desktop hp⟩
  | window window scale =>
    refine .andThen (P := fun made spoken result ↦ spoken = [] ∧
      ∃ answer : Result Rect, made = [⟨.windowRect window, answer⟩] ∧
        result = answer.mapError fun error ↦
          .error (.overlay s!"couldn't get window rectangle: {error.message}")) (.adapt ?_) ?_ ?_
    · refine (Accounts.make h (.windowRect window)).mono ?_
      rintro made spoken answer ⟨rfl, rfl⟩
      exact ⟨rfl, answer, rfl, rfl⟩
    · rintro made spoken error ⟨rfl, failure | bounds, rfl, he⟩
      · cases he
        exact ⟨rfl, .lost window scale failure⟩
      · cases he
    · rintro made spoken bounds ⟨rfl, failure | bounds, rfl, he⟩
      · cases he
      · cases he
        dsimp only
        cases hp : pointer.onWindow? bounds.origin ((topology.scaleOf? bounds).getD scale) rect with
        | none => exact .pure ⟨rfl, .offWindow window hp⟩
        | some point => exact .pure ⟨rfl, .window window hp⟩

theorem attempt_accounts (placement : Placement) (topology : Topology) (rect : Rect) :
    Accounts (attempt h.watched placement topology rect).run (Drawing topology rect placement) := by
  refine .andThen (P := fun made spoken result ↦ spoken = [] ∧
    ∃ answer : Result PointerState, made = [⟨.pointer, answer⟩] ∧
      result = answer.mapError fun error ↦ .error error.asOverlay) (.adapt ?_) ?_ ?_
  · refine (Accounts.make h .pointer).mono ?_
    rintro made spoken answer ⟨rfl, rfl⟩
    exact ⟨rfl, answer, rfl, rfl⟩
  · rintro made spoken error ⟨rfl, failure | pointer, rfl, he⟩
    · cases he
      exact .unasked failure
    · cases he
  rintro made spoken pointer ⟨rfl, failure | pointer, rfl, he⟩
  · cases he
  cases he
  split
  · next hv =>
    refine .andThen (position_accounts h topology rect pointer placement) ?_ ?_
    · rintro placed spoken error ⟨rfl, hp⟩
      exact .unplaced hv hp
    rintro placed spoken point ⟨rfl, hp⟩
    refine .logThen h _ ?_
    split
    · next hin =>
      refine .adapt ((Accounts.make h (.drawPointer point)).mono ?_)
      rintro made spoken result ⟨rfl, rfl⟩
      exact .drawn result hv hp hin
    · next hout =>
      refine .pure ?_
      rw [List.append_nil]
      exact .outside hv hp hout
  · next hv => exact .pure (.hidden (Bool.eq_false_iff.mpr hv))

theorem draw_accounts (overlay : PointerOverlay) (topology : Topology) (rect : Rect) :
    Accounts (overlay.draw h.watched topology rect) (Stroke topology rect overlay) := by
  refine (attempt_accounts h overlay.placement topology rect).bind fun made spoken result hd ↦ ?_
  cases result with
  | ok _ =>
    refine .pure ?_
    rw [List.append_nil, List.append_nil]
    exact .fine hd
  | error failure =>
    cases failure with
    | overflow =>
      refine .pure ?_
      rw [List.append_nil, List.append_nil]
      exact .broken hd
    | error error =>
      dsimp only
      split
      · next hr =>
        refine .pure ?_
        rw [List.append_nil, List.append_nil]
        exact .silent hd hr
      · next hr =>
        refine (Accounts.log h _).bind ?_
        rintro later said ⟨⟩ ⟨rfl, rfl⟩
        refine .pure ?_
        rw [List.append_nil, List.append_nil, List.append_nil]
        exact .warned hd (Bool.eq_false_iff.mpr hr)

theorem Placing.isPointers {topology : Topology} {rect : Rect} {pointer : PointerState}
    {placement : Placement} {placed : List Reply} {result : Except (Failure CaptureError) Point}
    (hp : Placing topology rect pointer placement placed result) :
    ∀ reply ∈ placed, reply.call.IsPointers := by
  cases hp <;> simp [Call.IsPointers]

theorem Drawing.isPointers {topology : Topology} {rect : Rect} {placement : Placement}
    {made : List Reply} {spoken : List LogLine} {result : Except (Failure CaptureError) Unit}
    (hd : Drawing topology rect placement made spoken result) :
    ∀ reply ∈ made, reply.call.IsPointers := by
  cases hd with
  | unasked | hidden => simp [Call.IsPointers]
  | unplaced _ hp | outside _ hp => exact List.forall_mem_cons.mpr ⟨trivial, hp.isPointers⟩
  | drawn _ _ hp =>
    refine List.forall_mem_cons.mpr ⟨trivial, List.forall_mem_append.mpr ⟨hp.isPointers, ?_⟩⟩
    exact List.forall_mem_singleton.mpr trivial

theorem Stroke.exists_drawing {topology : Topology} {rect : Rect} {overlay : PointerOverlay}
    {after : Option PointerOverlay} {made : List Reply} {spoken : List LogLine}
    (hs : Stroke topology rect overlay made spoken after) :
    ∃ said result, said <+: spoken ∧ (after = none ↔ result = .error .overflow) ∧
      Drawing topology rect overlay.placement made said result := by
  cases hs with
  | fine hd => exact ⟨_, _, List.prefix_rfl, by simp, hd⟩
  | broken hd => exact ⟨_, _, List.prefix_rfl, by simp, hd⟩
  | silent hd => exact ⟨_, _, List.prefix_rfl, by simp, hd⟩
  | warned hd => exact ⟨_, _, List.prefix_append _ _, by simp, hd⟩

end PointerOverlay

/-- Nothing is asked or drawn for the pointer. -/
def Quiet ⦃α : Type⦄ (act : StateM (Watched ω) α) : Prop :=
  Accounts act fun made _ _ ↦ ∀ reply ∈ made, ¬ reply.call.IsPointers

namespace Quiet

theorem pure (a : α) : Quiet (Pure.pure a : StateM (Watched ω) α) :=
  Accounts.pure (List.forall_mem_nil _)

theorem bind {act : StateM (Watched ω) α} {next : α → StateM (Watched ω) β} (ha : Quiet act)
    (hn : ∀ a, Quiet (next a)) : Quiet (act >>= next) :=
  Accounts.bind ha fun _ _ a hmade ↦ (hn a).mono fun _ _ _ hlater ↦
    List.forall_mem_append.mpr ⟨hmade, hlater⟩

theorem andThen {ε : Type} {act : ExceptT ε (StateM (Watched ω)) α}
    {next : α → ExceptT ε (StateM (Watched ω)) β}
    (ha : Quiet act.run) (hn : ∀ a, Quiet (next a).run) : Quiet (act >>= next).run :=
  Accounts.andThen ha (fun _ _ _ hmade ↦ hmade) fun _ _ a hmade ↦ (hn a).mono fun _ _ _ hlater ↦
    List.forall_mem_append.mpr ⟨hmade, hlater⟩

theorem composes : Composes fun ⦃α : Type⦄ (act _ : StateM (Watched ω) α) ↦ Quiet act where
  pure a := .pure a
  bind hact hnext := hact.bindAt fun _ _ s hmade ↦ (hnext s).mono fun _ _ _ hlater ↦
    List.forall_mem_append.mpr ⟨hmade, hlater⟩

theorem gives {act : StateM (Watched ω) α} {P : α → Prop} (ha : Quiet act) (hg : Gives act P) :
    Accounts act fun made _ a ↦ (∀ reply ∈ made, ¬ reply.call.IsPointers) ∧ P a := by
  intro s
  obtain ⟨made, spoken, hmade, hspoken, hquiet⟩ := ha s
  exact ⟨made, spoken, hmade, hspoken, hquiet, hg s⟩

theorem make (h : Host ω) (call : Call) (hc : ¬ call.IsPointers) : Quiet (h.watched.make call) :=
  (Accounts.make h call).mono <| by
    rintro made spoken answer ⟨rfl, -⟩
    exact List.forall_mem_singleton.mpr hc

theorem log (h : Host ω) (line : LogLine) : Quiet (h.watched.log line) :=
  (Accounts.log h line).mono <| by
    rintro made spoken answer ⟨rfl, -⟩
    exact List.forall_mem_nil _

end Quiet

namespace Session

/-- What a session asks and writes for the pointer in a read, and whether this breaks off. -/
inductive Points (session : Session) : List Reply → List LogLine → Bool → Prop
  | idle : Points session [] [] false
  | drawn {overlay : PointerOverlay} {after : Option PointerOverlay} {made : List Reply}
    {spoken : List LogLine} :
    session.overlay.map PointerOverlay.placement = some overlay.placement →
    PointerOverlay.Stroke session.topology session.target.captureRect overlay made spoken after →
    Points session made spoken after.isNone

/-- The session draws the pointer at most once, and if that breaks off its answer is one of those
that are `off`. -/
def PointsIn (session : Session) (off : α → Bool) (act : StateM (Watched ω) α) : Prop :=
  Accounts act fun made spoken a ↦ ∃ told, told <:+: spoken ∧
    session.Points (made.filter (·.call.IsPointers)) told (off a)

variable {session : Session}

namespace PointsIn

variable {off : α → Bool} {off' : β → Bool} {act : StateM (Watched ω) α}
  {next : α → StateM (Watched ω) β}

theorem of_quiet (ha : Quiet act) (hg : Gives act fun a ↦ off a = false) :
    session.PointsIn off act := by
  refine (ha.gives hg).mono fun made spoken a ⟨hmade, hoff⟩ ↦ ⟨[], List.nil_infix, ?_⟩
  rw [List.filter_eq_nil_iff.mpr fun reply hreply ↦ by simpa using hmade reply hreply, hoff]
  exact .idle

theorem before (ha : Quiet act) (hn : ∀ a, session.PointsIn off' (next a)) :
    session.PointsIn off' (act >>= next) := by
  refine Accounts.bind ha fun made spoken a hmade ↦ (hn a).mono fun later said _ ↦ ?_
  rintro ⟨told, htold, hpoints⟩
  refine ⟨told, htold.trans (List.suffix_append _ _).isInfix, ?_⟩
  rwa [List.filter_append, List.filter_eq_nil_iff.mpr fun reply hreply ↦ by
    simpa using hmade reply hreply, List.nil_append]

theorem after (ha : session.PointsIn off act) (hn : ∀ a, Quiet (next a))
    (hg : ∀ a, Gives (next a) fun b ↦ off' b = off a) : session.PointsIn off' (act >>= next) := by
  refine ha.bind fun made spoken a ⟨told, htold, hpoints⟩ ↦
    ((hn a).gives (hg a)).mono fun later said b ⟨hlater, hoff⟩ ↦ ?_
  refine ⟨told, htold.trans (List.prefix_append _ _).isInfix, ?_⟩
  rwa [hoff, List.filter_append, List.filter_eq_nil_iff (l := later) |>.mpr fun reply hreply ↦ by
    simpa using hlater reply hreply, List.append_nil]

end PointsIn

variable (h : Host ω)

theorem copies_quiet (session : Session) :
    h.watched.Related h.watched (fun ⦃_⦄ act _ ↦ Quiet act) session.Copies where
  composes := Quiet.composes
  call call hc := .make h call (by cases call <;> first | exact id | exact hc.elim)
  log line := .log h line

theorem encode_quiet (session : Session) : Quiet (session.encode h.watched).run := by
  have hcolours : Quiet (session.colours h.watched).run := by
    unfold colours
    split
    · exact .andThen (.make h (.readPalette _) id) fun _ ↦ .pure _
    · exact .pure _
  rw [encode_eq]
  exact hcolours.andThen fun _ ↦ .andThen (.make h .pixels id) fun _ ↦ .pure _

theorem drawPointer_pointsIn : session.PointsIn Option.isNone (session.drawPointer h.watched) := by
  unfold drawPointer
  split
  · exact .of_quiet (.pure _) (.pure rfl)
  · next overlay ho =>
    refine (overlay.draw_accounts h _ _).bind fun made spoken after hs ↦ .pure ?_
    obtain ⟨_, _, -, -, hd⟩ := hs.exists_drawing
    rw [List.append_nil, List.append_nil, Option.isNone_map,
      List.filter_eq_self.mpr fun reply hreply ↦ decide_eq_true (hd.isPointers reply hreply)]
    exact ⟨spoken, List.infix_rfl, .drawn (congrArg (Option.map PointerOverlay.placement) ho) hs⟩

theorem tick_pointsIn (schedule : Schedule) (now : Int) :
    session.PointsIn (fun taken ↦ decide (Reading.ofTick taken.1 = .overflow))
      (session.tick h.watched schedule now) := by
  have htimer : Quiet h.watched.timer := .make h .timer id
  refine .before htimer fun started ↦ ?_
  refine .before (blit_related (copies_quiet h session)) fun copied ↦ ?_
  cases copied with
  | error error => exact .of_quiet (.pure _) (.pure rfl)
  | ok _ =>
    refine (drawPointer_pointsIn h).after (fun drawn ↦ ?_) fun drawn ↦ ?_
    · cases drawn with
      | none => exact .pure _
      | some drawn =>
        refine (encode_quiet h drawn).bind fun encoded ↦ ?_
        cases encoded with
        | error error => exact .pure _
        | ok data => exact htimer.bind fun _ ↦ htimer.bind fun _ ↦ .pure _
    · cases drawn with
      | none => exact .pure rfl
      | some drawn =>
        refine .bind (.any _) fun encoded _ ↦ ?_
        cases encoded with
        | error error => exact .pure rfl
        | ok data => exact .bind (.any _) fun _ _ ↦ .bind (.any _) fun _ _ ↦ .pure rfl

theorem read_pointsIn (session : Session) (patience : Nat) :
    session.PointsIn (fun taken ↦ decide (taken.1 = .overflow))
      (session.read h.watched patience) := by
  have hcopies := copies_quiet h session
  unfold read
  split
  · exact .of_quiet (.pure _) (.pure rfl)
  · refine .before (pump_related hcopies) fun _ ↦ ?_
    refine .before (await_related hcopies _ _ _) fun waiting ↦ ?_
    cases waiting with
    | refused | unfinished => exact .of_quiet (.pure _) (.pure rfl)
    | due schedule now =>
      refine (tick_pointsIn h schedule now).after (fun (outcome, after) ↦ ?_)
        fun (outcome, after) ↦ ?_
      · cases outcome <;> exact .pure _
      · cases outcome <;> exact .pure rfl

theorem read_watched (session : Session) (patience : Nat) (w : ω) :
    let watched := session.read h.watched patience (.ofWorld w)
    (watched.1 = (session.read h patience w).1 ∧
      watched.2.world.world = (session.read h patience w).2) ∧
    ∃ told, told <:+: watched.2.lines ∧
      session.Points (watched.2.replies.filter (·.call.IsPointers)) told
        (decide (watched.1.1 = .overflow)) := by
  intro watched
  have hrelated : h.watched.Related h (Agrees fun s w ↦ s.world.world = w) session.Asks :=
    h.watched_related.mono fun _ _ ↦ trivial
  obtain ⟨made, spoken, hmade, hspoken, told, htold, hpoints⟩ :=
    session.read_pointsIn h patience (.ofWorld w)
  refine ⟨read_related hrelated patience (.ofWorld w) w rfl, told, ?_, ?_⟩
  · rw [hspoken]
    exact htold
  · rw [hmade]
    exact hpoints

end Session

end ScreenCapture

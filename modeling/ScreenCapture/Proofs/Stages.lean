import ScreenCapture.Proofs.Opening
import ScreenCapture.Proofs.Replies

namespace ScreenCapture

variable {ω : Type}

inductive Search : CaptureTarget → List Reply → Result TargetHandle → Prop
  | desktop : Search .desktop [] (.ok .desktop)
  | found (title : String) (window : WindowId) :
    Search (.window title) [⟨.findWindow title, .ok (some window)⟩] (.ok (.window window))
  | absent (title : String) :
    Search (.window title) [⟨.findWindow title, .ok none⟩] (.error (.windowNotFound title))
  | failed (title : String) (error : CaptureError) :
    Search (.window title) [⟨.findWindow title, .error error⟩] (.error error)

inductive Sighting : List Reply → Result Topology → Prop
  | failed (error : CaptureError) : Sighting [⟨.monitors, .error error⟩] (.error error)
  | empty : Sighting [⟨.monitors, .ok []⟩] (.error .noMonitors)
  | arranged {monitors : List Monitor} : monitors ≠ [] →
    Sighting [⟨.monitors, .ok monitors⟩] (.ok ⟨monitors⟩)

/-- The scale of a window whose bounds are `rect`; off all monitors, that of the first one. -/
def Topology.windowScale? (topology : Topology) (rect : Rect) : Option Scale :=
  (topology.scaleOf? rect).or ((topology.get? 0).map Monitor.scale)

/-- What can be captured of a target, with the scale of a window. -/
inductive Survey (topology : Topology) :
    TargetHandle → List Reply → Except (Failure CaptureError) (Rect × Option Scale) → Prop
  | screenless (error : CaptureError) :
    Survey topology .desktop [⟨.virtualScreen, .error error⟩] (.error (.error error))
  | unmapped {screen : Rect} {failure : Failure CaptureError} :
    topology.Mapping screen (.error failure) →
    Survey topology .desktop [⟨.virtualScreen, .ok screen⟩] (.error failure)
  | mapped {screen area : Rect} : topology.Mapping screen (.ok area) →
    Survey topology .desktop [⟨.virtualScreen, .ok screen⟩] (.ok (area, none))
  | boundless (window : WindowId) (error : CaptureError) :
    Survey topology (.window window) [⟨.windowRect window, .error error⟩] (.error (.error error))
  | clientless (window : WindowId) (bounds : Rect) (error : CaptureError) :
    Survey topology (.window window)
      [⟨.windowRect window, .ok bounds⟩, ⟨.clientRect window, .error error⟩] (.error (.error error))
  | scaled (window : WindowId) {bounds client : Rect} {scale : Scale} :
    topology.windowScale? bounds = some scale →
    Survey topology (.window window)
      [⟨.windowRect window, .ok bounds⟩, ⟨.clientRect window, .ok client⟩]
      (.ok (scale.mapRect client, some scale))

/-- The rectangle that a request is for. It may end with the coordinates. -/
inductive CaptureRequest.Names (request : CaptureRequest) (area : Rect) : Rect → Prop
  | whole : request.IsWholeArea → Names request area area
  | part : ¬ request.IsWholeArea → request.width ≤ Coordinate.greatest →
    request.height ≤ Coordinate.greatest →
    Names request area ⟨request.offsetX, request.offsetY,
      Coordinate.saturate (request.offsetX + request.width),
      Coordinate.saturate (request.offsetY + request.height)⟩

/-- The part of an area that is captured. Nothing is asked for. -/
inductive Selection (request : CaptureRequest) (area : Rect) (depth : Nat) : Result Rect → Prop
  | tooLarge : ¬ request.IsWholeArea →
    Coordinate.greatest < request.width ∨ Coordinate.greatest < request.height →
    Selection request area depth (.error .bufferOverflow)
  | outside {rect : Rect} : request.Names area rect → ¬ area.Encloses rect →
    Selection request area depth (.error (.outOfBounds rect area))
  | unfit {rect : Rect} : request.Names area rect → area.Encloses rect →
    rect.IsEmpty ∨ ¬ WholeBytes depth →
    Selection request area depth (.error (.invalidConfig (.area rect.width rect.height depth)))
  | chosen {rect : Rect} : request.Names area rect → area.Encloses rect → ¬ rect.IsEmpty →
    WholeBytes depth → Selection request area depth (.ok rect)

inductive Targeting (request : CaptureRequest) (topology : Topology) (handle : TargetHandle)
    (depth : Nat) : List Reply → Except (Failure CaptureError) ResolvedTarget → Prop
  | unsurveyed {surveyed : List Reply} {failure : Failure CaptureError} :
    Survey topology handle surveyed (.error failure) →
    Targeting request topology handle depth surveyed (.error failure)
  | unselected {surveyed : List Reply} {area : Rect} {scale : Option Scale}
    {error : CaptureError} : Survey topology handle surveyed (.ok (area, scale)) →
    Selection request area depth (.error error) →
    Targeting request topology handle depth surveyed (.error (.error error))
  | resolved {surveyed : List Reply} {area rect : Rect} {scale : Option Scale} :
    Survey topology handle surveyed (.ok (area, scale)) → Selection request area depth (.ok rect) →
    Targeting request topology handle depth surveyed (.ok ⟨handle, area, rect, scale⟩)

/-- What has to be known before anything is allocated. -/
structure Plan where
  topology : Topology
  target : ResolvedTarget
  layout : BitmapLayout

def ResolvedTarget.layout (target : ResolvedTarget) (depth : Nat) : Result BitmapLayout :=
  BitmapLayout.new target.captureRect.width.toNat target.captureRect.height.toNat depth

inductive Planning (request : CaptureRequest) (handle : TargetHandle) (depth : Nat) :
    List Reply → Except (Failure CaptureError) Plan → Prop
  | unsighted {sighted : List Reply} {error : CaptureError} : Sighting sighted (.error error) →
    Planning request handle depth sighted (.error (.error error))
  | unresolved {sighted looked : List Reply} {topology : Topology}
    {failure : Failure CaptureError} : Sighting sighted (.ok topology) →
    Targeting request topology handle depth looked (.error failure) →
    Planning request handle depth (sighted ++ looked) (.error failure)
  | oversized {sighted looked : List Reply} {topology : Topology} {target : ResolvedTarget}
    {error : CaptureError} : Sighting sighted (.ok topology) →
    Targeting request topology handle depth looked (.ok target) →
    target.layout depth = .error error →
    Planning request handle depth (sighted ++ looked) (.error (.error error))
  | planned {sighted looked : List Reply} {topology : Topology} {target : ResolvedTarget}
    {layout : BitmapLayout} : Sighting sighted (.ok topology) →
    Targeting request topology handle depth looked (.ok target) →
    target.layout depth = .ok layout →
    Planning request handle depth (sighted ++ looked) (.ok ⟨topology, target, layout⟩)

namespace Session

/-- What a session that carries out a plan looks like. -/
structure Follows (options : CaptureOptions) (target : CaptureTarget) (plan : Plan)
    (session : Session) : Prop where
  options_eq : session.options =
    { options with showRegion := options.showRegion && decide (target = .desktop) }
  topology_eq : session.topology = plan.topology
  target_eq : session.target = plan.target
  layout_eq : session.layout = plan.layout

end Session

/-- The calls of an opening with their answers, and how it ends. -/
inductive Opening (options : CaptureOptions) (target : CaptureTarget) :
    List Reply → Except (Failure CaptureError) Session → Prop
  | unfound {found : List Reply} {error : CaptureError} : Search target found (.error error) →
    Opening options target found (.error (.error error))
  | unopened {found : List Reply} {handle : TargetHandle} (error : CaptureError) :
    Search target found (.ok handle) →
    Opening options target (found ++ [⟨.openSource handle, .error error⟩]) (.error (.error error))
  | unplanned {found planned : List Reply} {handle : TargetHandle} {depth : Nat}
    {failure : Failure CaptureError} : Search target found (.ok handle) →
    Planning options.request handle depth planned (.error failure) →
    Opening options target (found ++ ⟨.openSource handle, .ok ()⟩ :: ⟨.depth, depth⟩ :: planned ++
      [⟨.release .source, ()⟩]) (.error failure)
  | unallocated {found planned : List Reply} {handle : TargetHandle} {depth : Nat} {plan : Plan}
    (error : CaptureError) : Search target found (.ok handle) →
    Planning options.request handle depth planned (.ok plan) →
    Opening options target (found ++ ⟨.openSource handle, .ok ()⟩ :: ⟨.depth, depth⟩ :: planned ++
      [⟨.allocateSurface plan.layout, .error error⟩, ⟨.release .source, ()⟩])
      (.error (.error error))
  | unoutlined {found planned : List Reply} {handle : TargetHandle} {depth : Nat} {plan : Plan}
    (error : CaptureError) : Search target found (.ok handle) →
    Planning options.request handle depth planned (.ok plan) →
    options.showRegion = true → target = .desktop →
    Opening options target (found ++ ⟨.openSource handle, .ok ()⟩ :: ⟨.depth, depth⟩ :: planned ++
      [⟨.allocateSurface plan.layout, .ok ()⟩,
        ⟨.createOutline plan.target.captureRect, .error error⟩, ⟨.release .surface, ()⟩,
        ⟨.release .source, ()⟩]) (.error (.error error))
  | opened {found planned outlined glances : List Reply} {handle : TargetHandle} {depth : Nat}
    {plan : Plan} {session : Session} : Search target found (.ok handle) →
    Planning options.request handle depth planned (.ok plan) →
    (outlined = if options.showRegion ∧ target = .desktop then
      [⟨.createOutline plan.target.captureRect, .ok ()⟩] else []) →
    (∀ reply ∈ glances, reply.call = .deviceScale ∨ reply.call = .now) →
    session.Follows options target plan →
    Opening options target (found ++ ⟨.openSource handle, .ok ()⟩ :: ⟨.depth, depth⟩ :: planned ++
      ⟨.allocateSurface plan.layout, .ok ()⟩ :: outlined ++ glances) (.ok session)

theorem Topology.monitors_ne_nil_of_ofMonitors {monitors : List Monitor} {topology : Topology}
    (ht : ofMonitors monitors = .ok topology) : topology.monitors ≠ [] := by
  cases monitors with
  | nil => cases ht
  | cons first rest =>
    cases ht
    exact List.cons_ne_nil first rest

theorem Topology.exists_windowScale? {topology : Topology} (hm : topology.monitors ≠ [])
    (rect : Rect) : ∃ scale, topology.windowScale? rect = some scale := by
  obtain ⟨first, rest, hcons⟩ := List.exists_cons_of_ne_nil hm
  have hfirst : topology.get? 0 = some first := by
    rw [get?, hcons]
    rfl
  rw [windowScale?, hfirst]
  cases topology.scaleOf? rect with
  | none => exact ⟨first.scale, rfl⟩
  | some scale => exact ⟨scale, rfl⟩

namespace CaptureRequest

variable (request : CaptureRequest) (area : Rect)

theorem clip_names : (∃ rect, request.clip area = .ok rect ∧ request.Names area rect) ∨
    request.clip area = .error .bufferOverflow ∧ ¬ request.IsWholeArea ∧
      (Coordinate.greatest < request.width ∨ Coordinate.greatest < request.height) := by
  unfold clip
  split
  · next hw => exact .inl ⟨area, rfl, .whole hw⟩
  · next hw =>
    split
    · next hlarge => exact .inr ⟨rfl, hw, hlarge⟩
    · next hfits =>
      rw [not_or, Int.not_lt, Int.not_lt] at hfits
      exact .inl ⟨_, rfl, .part hw hfits.1 hfits.2⟩

theorem select_selection (depth : Nat) :
    Selection request area depth (request.select area depth) := by
  obtain ⟨rect, hc, hn⟩ | ⟨hc, hw, hlarge⟩ := request.clip_names area
  · rw [select, hc]
    simp only [bind, Except.bind]
    by_cases hencloses : area.Encloses rect
    · rw [if_neg (not_not_intro hencloses)]
      by_cases hfault : rect.IsEmpty ∨ ¬ WholeBytes depth
      · rw [if_pos hfault]
        exact .unfit hn hencloses hfault
      · rw [if_neg hfault]
        obtain ⟨hempty, hwhole⟩ := not_or.mp hfault
        exact .chosen hn hencloses hempty (Decidable.not_not.mp hwhole)
    · rw [if_pos hencloses]
      exact .outside hn hencloses
  · rw [select, hc]
    exact .tooLarge hw hlarge

end CaptureRequest

namespace Host

variable (h : Host ω)

theorem findTarget_tells (target : CaptureTarget) :
    Tells (h.answered.findTarget target).run (Search target) := by
  cases target with
  | desktop => exact .pure .desktop
  | window title =>
    refine .andThen (.note h (.findWindow title)) ?_ ?_
    · rintro made error rfl
      exact .failed title error
    · rintro made found rfl
      cases found with
      | none => exact .pure (.absent title)
      | some window => exact .pure (.found title window)

theorem resolveTopology_tells : Tells h.answered.resolveTopology.run Sighting := by
  refine .andThen (.note h .monitors) ?_ ?_
  · rintro made error rfl
    exact .failed error
  · rintro made monitors rfl
    cases monitors with
    | nil => exact .result _ (fun error he ↦ by cases he; exact .empty) nofun
    | cons first rest =>
      refine .result _ nofun fun topology ht ↦ ?_
      cases ht
      exact .logs h _ (.pure (.arranged nofun))

theorem scaleOfWindow_gives (h : Host ω) {topology : Topology} (hm : topology.monitors ≠ [])
    (rect : Rect) : Gives (h.scaleOfWindow topology rect).run fun result ↦
      ∃ scale, result = .ok scale ∧ topology.windowScale? rect = some scale := by
  obtain ⟨scale, hscale⟩ := Topology.exists_windowScale? hm rect
  unfold scaleOfWindow
  split
  · next scale hat =>
    exact .pure ⟨scale, rfl, by rw [Topology.windowScale?, hat, Option.some_or]⟩
  · next hoff =>
    have hfirst : (topology.get? 0).map Monitor.scale = some scale := by
      rwa [Topology.windowScale?, hoff, Option.none_or] at hscale
    obtain ⟨first, hget, rfl⟩ := Option.map_eq_some_iff.mp hfirst
    rw [hget]
    exact fun w ↦ ⟨first.scale, rfl, hscale⟩

theorem scaleOfWindow_tells {topology : Topology} (hm : topology.monitors ≠ []) (rect : Rect) :
    Tells (h.answered.scaleOfWindow topology rect).run fun made result ↦
      made = [] ∧ ∃ scale, result = .ok scale ∧ topology.windowScale? rect = some scale := by
  have hquiet : Tells (h.answered.scaleOfWindow topology rect).run fun made _ ↦ made = [] := by
    unfold scaleOfWindow
    split
    · exact .pure rfl
    · refine .log h _ ?_
      split <;> exact .pure rfl
  exact hquiet.gives (h.answered.scaleOfWindow_gives hm rect)

theorem captureArea_tells {topology : Topology} (hm : topology.monitors ≠ [])
    (handle : TargetHandle) :
    Tells (h.answered.captureArea topology handle).run (Survey topology handle) := by
  cases handle with
  | desktop =>
    refine .embed (.note h .virtualScreen) ?_ ?_
    · rintro made error rfl
      exact .screenless error
    · rintro made screen rfl
      have hmapping := topology.toPhysical_mapping screen
      refine .result _ (fun failure hf ↦ ?_) fun area ha ↦ .log h _ (.pure ?_)
      · exact .unmapped (hf ▸ hmapping)
      · exact .mapped (ha ▸ hmapping)
  | window window =>
    refine .embed (.note h (.windowRect window)) ?_ ?_
    · rintro made error rfl
      exact .boundless window error
    · rintro made bounds rfl
      refine .embed (scaleOfWindow_tells h hm bounds) ?_ ?_
      · rintro made error ⟨-, scale, he, -⟩
        cases he
      · rintro made scale ⟨rfl, scale', he, hscale⟩
        cases he
        refine .embed (.note h (.clientRect window)) ?_ ?_
        · rintro made error rfl
          exact .clientless window bounds error
        · rintro made client rfl
          exact .log h _ (.pure (.scaled window hscale))

theorem resolveTarget_tells {topology : Topology} (hm : topology.monitors ≠ [])
    (handle : TargetHandle) (request : CaptureRequest) (depth : Nat) :
    Tells (h.answered.resolveTarget topology handle request depth).run
      (Targeting request topology handle depth) := by
  refine .andThen (captureArea_tells h hm handle) (fun made failure hs ↦ .unsurveyed hs) ?_
  rintro surveyed ⟨area, scale⟩ hs
  have hselection := request.select_selection area depth
  refine .check _ (fun error he ↦ ?_) fun rect hrect ↦ .log h _ (.pure ?_)
  · rw [he] at hselection
    rw [List.append_nil]
    exact .unselected hs hselection
  · rw [hrect] at hselection
    rw [List.append_nil]
    exact .resolved hs hselection

end Host

theorem Sighting.monitors_ne_nil {sighted : List Reply} {topology : Topology}
    (hs : Sighting sighted (.ok topology)) : topology.monitors ≠ [] := by
  cases hs with
  | arranged hm => exact hm

namespace Session

variable (h : Host ω)

theorem settle_tells (options : CaptureOptions) (handle : TargetHandle) :
    Tells (settle h.answered options handle) fun made settled ↦ made = [] ∧
      settled = { options with showRegion := options.showRegion && decide (handle = .desktop) } := by
  have hquiet : Tells (settle h.answered options handle) fun made _ ↦ made = [] := by
    unfold settle
    split
    · exact .bind (.onWorld _) fun made _ hmade ↦ .pure (by rw [hmade, List.append_nil])
    · exact .pure rfl
  exact hquiet.gives (settle_gives options handle)

theorem overlayOf_tells (options : CaptureOptions) (target : ResolvedTarget) :
    Tells (overlayOf h.answered options target) fun made _ ↦
      ∀ reply ∈ made, reply.call = .deviceScale := by
  have hplacement : Tells (placementOf h.answered target) fun made _ ↦
      ∀ reply ∈ made, reply.call = .deviceScale := by
    unfold placementOf
    split
    · refine .bind (.note h .deviceScale) fun made scale hmade ↦ .pure ?_
      rw [hmade, List.append_nil]
      exact List.forall_mem_singleton.mpr rfl
    · exact .pure (List.forall_mem_nil _)
  unfold overlayOf
  split
  · refine hplacement.bind fun made placement hmade ↦ .pure ?_
    rw [List.append_nil]
    exact hmade
  · exact .pure (List.forall_mem_nil _)

theorem setUp_tells (options : CaptureOptions) (topology : Topology) (target : ResolvedTarget)
    (layout : BitmapLayout) :
    Tells (setUp h.answered options topology target layout) fun made session ↦
      (∀ reply ∈ made, reply.call = .deviceScale ∨ reply.call = .now) ∧
        session.options = options ∧ session.topology = topology ∧ session.target = target ∧
          session.layout = layout := by
  have hglances : Tells (setUp h.answered options topology target layout) fun made _ ↦
      ∀ reply ∈ made, reply.call = .deviceScale ∨ reply.call = .now := by
    refine (overlayOf_tells h options target).bind fun scaled overlay hscaled ↦ ?_
    refine .bind (.note h .now) fun timed now htimed ↦ ?_
    refine .bind (.onWorld _) fun logged _ hlogged ↦ .pure ?_
    subst htimed hlogged
    simp only [List.append_nil, List.mem_append, List.mem_singleton]
    rintro reply (hreply | rfl)
    · exact .inl (hscaled reply hreply)
    · exact .inr rfl
  refine hglances.gives ?_
  exact .bind (.any _) fun _ _ ↦ .bind (.any _) fun _ _ ↦ .bind (.any _) fun _ _ ↦
    .pure ⟨rfl, rfl, rfl, rfl⟩

theorem start_tells (options : CaptureOptions) (target : CaptureTarget) :
    Tells (start h.answered options target).run (Opening options target) := by
  refine .embed (h.findTarget_tells target) (fun found error hf ↦ .unfound hf) ?_
  intro found handle hfound
  refine .lift (settle_tells h options handle) ?_
  rintro settled _ ⟨rfl, rfl⟩
  have hshown : decide (handle = .desktop) = decide (target = .desktop) := by
    cases hfound <;> rfl
  rw [hshown]
  refine .embed (.note h (.openSource handle)) ?_ ?_
  · rintro made error rfl
    exact .unopened error hfound
  rintro made ⟨⟩ rfl
  refine .holding (.lift (.note h .depth) ?_)
  rintro made depth rfl
  have hunplanned {planned : List Reply} {failure : Failure CaptureError}
      (hp : Planning options.request handle depth planned (.error failure)) :=
    Opening.unplanned hfound hp
  refine .embed h.resolveTopology_tells ?_ ?_
  · intro sighted error hs
    simpa [givingBack] using hunplanned (.unsighted hs)
  intro sighted topology hs
  refine .andThen (h.resolveTarget_tells hs.monitors_ne_nil handle options.request depth) ?_ ?_
  · intro looked failure hl
    simpa [givingBack] using hunplanned (.unresolved hs hl)
  intro looked resolved hl
  refine .check _ ?_ fun layout hlayout ↦ ?_
  · intro error he
    simpa [givingBack] using hunplanned (.oversized hs hl he)
  have hplan := Planning.planned hs hl hlayout
  refine .embed (.note h (.allocateSurface layout)) ?_ ?_
  · rintro made error rfl
    simpa [givingBack] using Opening.unallocated error hfound hplan
  rintro made ⟨⟩ rfl
  refine .holding ?_
  have hopened {outlined glances : List Reply} {session : Session}
      (houtlined : outlined = if options.showRegion ∧ target = .desktop then
        [⟨.createOutline resolved.captureRect, .ok ()⟩] else [])
      (hg : ∀ reply ∈ glances, reply.call = .deviceScale ∨ reply.call = .now)
      (hf : session.options = { options with
        showRegion := options.showRegion && decide (target = .desktop) } ∧
          session.topology = topology ∧ session.target = resolved ∧ session.layout = layout) :=
    Opening.opened hfound hplan houtlined hg ⟨hf.1, hf.2.1, hf.2.2.1, hf.2.2.2⟩
  split
  · next hshow =>
    have hshow : options.showRegion ∧ target = .desktop := by simpa using hshow
    refine .embed (.note h (.createOutline resolved.captureRect)) ?_ ?_
    · rintro made error rfl
      simpa [givingBack] using Opening.unoutlined error hfound hplan hshow.1 hshow.2
    · rintro made ⟨⟩ rfl
      refine (setUp_tells h _ topology resolved layout).lifted fun glances session hs ↦ ?_
      simpa [givingBack] using hopened (if_pos hshow).symm hs.1 hs.2
  · next hhide =>
    have hhide : ¬ (options.showRegion ∧ target = .desktop) := by simpa using hhide
    refine (setUp_tells h _ topology resolved layout).lifted fun glances session hs ↦ ?_
    simpa [givingBack] using hopened (if_neg hhide).symm hs.1 hs.2

end Session

section

variable {target : CaptureTarget} {handle : TargetHandle} {topology : Topology}
  {request : CaptureRequest} {depth : Nat} {replies : List Reply}

theorem Search.isQuery {result : Result TargetHandle} (hs : Search target replies result) :
    ∀ reply ∈ replies, reply.call.IsQuery := by
  cases hs <;> simp [Call.IsQuery]

theorem Sighting.isQuery {result : Result Topology} (hs : Sighting replies result) :
    ∀ reply ∈ replies, reply.call.IsQuery := by
  cases hs <;> simp [Call.IsQuery]

theorem Targeting.isQuery {result : Except (Failure CaptureError) ResolvedTarget}
    (ht : Targeting request topology handle depth replies result) :
    ∀ reply ∈ replies, reply.call.IsQuery := by
  have hsurvey {result : Except (Failure CaptureError) (Rect × Option Scale)}
      (hs : Survey topology handle replies result) :
      ∀ reply ∈ replies, reply.call.IsQuery := by
    cases hs <;> simp [Call.IsQuery]
  cases ht with
  | unsurveyed hs => exact hsurvey hs
  | unselected hs => exact hsurvey hs
  | resolved hs => exact hsurvey hs

theorem Planning.isQuery {result : Except (Failure CaptureError) Plan}
    (hp : Planning request handle depth replies result) : ∀ reply ∈ replies, reply.call.IsQuery := by
  cases hp with
  | unsighted hs => exact hs.isQuery
  | unresolved hs ht | oversized hs ht | planned hs ht =>
    exact List.forall_mem_append.mpr ⟨hs.isQuery, ht.isQuery⟩

theorem glances_isQuery
    (hg : ∀ reply ∈ replies, reply.call = .deviceScale ∨ reply.call = .now) :
    ∀ reply ∈ replies, reply.call.IsQuery := by
  intro reply hreply
  rcases hg reply hreply with hcall | hcall <;> rw [hcall] <;> trivial

theorem call_notMem {call : Call} (hc : ¬ call.IsQuery)
    (hq : ∀ reply ∈ replies, reply.call.IsQuery) : call ∉ replies.map Reply.call := by
  intro hm
  obtain ⟨reply, hreply, rfl⟩ := List.mem_map.mp hm
  exact hc (hq reply hreply)

end

namespace Opening

variable {options : CaptureOptions} {target : CaptureTarget} {replies : List Reply}
  {result : Except (Failure CaptureError) Session}

theorem planned_of_allocateSurface (ho : Opening options target replies result)
    {layout : BitmapLayout} (hl : .allocateSurface layout ∈ replies.map Reply.call) :
    ∃ found handle depth planned plan, Search target found (.ok handle) ∧
      Planning options.request handle depth planned (.ok plan) ∧ plan.layout = layout ∧
      found ++ ⟨.openSource handle, .ok ()⟩ :: ⟨.depth, depth⟩ :: planned <+: replies := by
  have hquery {queries : List Reply} (hq : ∀ reply ∈ queries, reply.call.IsQuery) :
      .allocateSurface layout ∉ queries.map Reply.call := call_notMem not_false hq
  cases ho with
  | unfound hf => exact absurd hl (hquery hf.isQuery)
  | unopened error hf => simp [hquery hf.isQuery] at hl
  | unplanned hf hp => simp [hquery hf.isQuery, hquery hp.isQuery] at hl
  | unallocated error hf hp =>
    have hlayout := by simpa [hquery hf.isQuery, hquery hp.isQuery] using hl
    exact ⟨_, _, _, _, _, hf, hp, hlayout.symm, List.prefix_append ..⟩
  | unoutlined error hf hp =>
    have hlayout := by simpa [hquery hf.isQuery, hquery hp.isQuery] using hl
    exact ⟨_, _, _, _, _, hf, hp, hlayout.symm, List.prefix_append ..⟩
  | @opened _ _ _ _ _ _ plan _ hf hp houtlined hglances =>
    have hoff := hquery (glances_isQuery hglances)
    have hlayout : layout = plan.layout := by
      rw [houtlined] at hl
      split at hl <;> simpa [hquery hf.isQuery, hquery hp.isQuery, hoff, -List.mem_map] using hl
    refine ⟨_, _, _, _, _, hf, hp, hlayout.symm, ?_⟩
    rw [List.append_assoc (_ ++ _)]
    exact List.prefix_append ..

theorem shows_of_createOutline (ho : Opening options target replies result) {rect : Rect}
    (hr : .createOutline rect ∈ replies.map Reply.call) :
    options.showRegion = true ∧ target = .desktop := by
  have hquery {queries : List Reply} (hq : ∀ reply ∈ queries, reply.call.IsQuery) :
      .createOutline rect ∉ queries.map Reply.call := call_notMem not_false hq
  cases ho with
  | unfound hf => exact absurd hr (hquery hf.isQuery)
  | unopened error hf => simp [hquery hf.isQuery] at hr
  | unplanned hf hp => simp [hquery hf.isQuery, hquery hp.isQuery] at hr
  | unallocated error hf hp => simp [hquery hf.isQuery, hquery hp.isQuery] at hr
  | unoutlined error hf hp hshow htarget => exact ⟨hshow, htarget⟩
  | opened hf hp houtlined hglances =>
    have hoff := hquery (glances_isQuery hglances)
    rw [houtlined] at hr
    split at hr
    · assumption
    · simp [hquery hf.isQuery, hquery hp.isQuery, hoff, -List.mem_map] at hr

theorem showRegion_eq {session : Session} (ho : Opening options target replies (.ok session)) :
    session.options.showRegion = (options.showRegion && decide (target = .desktop)) := by
  cases ho with
  | opened _ _ _ _ hfollows => rw [hfollows.options_eq]

end Opening

namespace Session

/-- Every opening goes through the stages, and ends at the first one that fails, with its error.
Nothing is allocated before the target was found and its bounds, depth and size were checked, no
outline is created around a window, and a window off all monitors does have a scale. -/
theorem start_goes_through_stages (h : Host ω) (options : CaptureOptions) (target : CaptureTarget)
    (w : ω) :
    (∃ replies, start h.answered options target ⟨w, []⟩ =
        ((start h options target w).1, ⟨(start h options target w).2, replies⟩) ∧
      Opening options target replies (start h options target w).1 ∧
      (∀ layout, .allocateSurface layout ∈ replies.map Reply.call →
        ∃ found handle depth planned plan, Search target found (.ok handle) ∧
          Planning options.request handle depth planned (.ok plan) ∧ plan.layout = layout ∧
          found ++ ⟨.openSource handle, .ok ()⟩ :: ⟨.depth, depth⟩ :: planned <+: replies) ∧
      ∀ rect, .createOutline rect ∈ replies.map Reply.call →
        options.showRegion = true ∧ target = .desktop) ∧
    (∀ session, (start h options target w).1 = .ok session →
      session.options.showRegion = (options.showRegion && decide (target = .desktop))) ∧
    ∀ monitors topology, Topology.ofMonitors monitors = .ok topology →
      ∀ rect w, ∃ scale, (h.scaleOfWindow topology rect w).1 = .ok scale := by
  have hrelated : h.answered.Related h (Agrees fun s w ↦ s.world = w) Call.Opens :=
    h.answered_related.mono fun _ _ ↦ trivial
  have hagrees := start_related hrelated options target ⟨w, []⟩ w rfl
  have hresult : (start h.answered options target ⟨w, []⟩).1 = (start h options target w).1 :=
    hagrees.1
  have hworld : (start h.answered options target ⟨w, []⟩).2.world = (start h options target w).2 :=
    hagrees.2
  obtain ⟨replies, hreplies, hopening⟩ := start_tells h options target ⟨w, []⟩
  have hopening : Opening options target replies (start h options target w).1 := hresult ▸ hopening
  refine ⟨⟨replies, ?_, hopening, fun _ ↦ hopening.planned_of_allocateSurface,
    fun _ ↦ hopening.shows_of_createOutline⟩, fun session hs ↦ ?_, fun monitors topology ht ↦ ?_⟩
  · rw [← hresult, ← hworld]
    exact Prod.ext rfl (Answered.ext rfl hreplies)
  · rw [hs] at hopening
    exact hopening.showRegion_eq
  · intro rect w
    obtain ⟨scale, hscale, -⟩ :=
      h.scaleOfWindow_gives (Topology.monitors_ne_nil_of_ofMonitors ht) rect w
    exact ⟨scale, hscale⟩

end Session

end ScreenCapture

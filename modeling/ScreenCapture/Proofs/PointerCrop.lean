import ScreenCapture.Proofs.CheckedCoordinates
import ScreenCapture.Proofs.Scaling
import ScreenCapture.Proofs.WindowScale

namespace ScreenCapture

variable {ω ε α β : Type} {h : Host ω}

def Rect.shift (rect : Rect) (dx dy : Int) : Rect :=
  ⟨rect.left + dx, rect.top + dy, rect.right + dx, rect.bottom + dy⟩

namespace PointerState

variable (pointer : PointerState)

def inWindow (origin : Point) (rect : Rect) : Point :=
  ⟨pointer.position.x - rect.left - pointer.hotspot.x - origin.x,
    pointer.position.y - rect.top - pointer.hotspot.y - origin.y⟩

theorem onDesktop?_shift {scale : Scale} {rect : Rect} {dx dy : Int} {point moved : Point}
    (hp : pointer.onDesktop? scale rect = some point)
    (hm : pointer.onDesktop? scale (rect.shift dx dy) = some moved) :
    moved = ⟨point.x - dx, point.y - dy⟩ := by
  rw [eq_of_onDesktop? hp, eq_of_onDesktop? hm]
  simp only [Rect.shift, Point.mk.injEq]
  omega

theorem onWindow?_carries {origin : Point} {scale : Scale} {rect rect' : Rect}
    {point point' : Point} (hp : pointer.onWindow? origin scale rect = some point)
    (hp' : pointer.onWindow? origin scale rect' = some point')
    (hf : scale.Fits (pointer.inWindow origin rect))
    (hf' : scale.Fits (pointer.inWindow origin rect')) :
    Scale.Carries scale.physical.width scale.logical.width (rect'.left - rect.left)
        (point.x - point'.x) ∧
      Scale.Carries scale.physical.height scale.logical.height (rect'.top - rect.top)
        (point.y - point'.y) := by
  have hx : (pointer.inWindow origin rect).x - (pointer.inWindow origin rect').x =
      rect'.left - rect.left := by
    simp only [inWindow]
    omega
  have hy : (pointer.inWindow origin rect).y - (pointer.inWindow origin rect').y =
      rect'.top - rect.top := by
    simp only [inWindow]
    omega
  rw [eq_of_onWindow? hp, eq_of_onWindow? hp', ← hx, ← hy]
  exact ⟨Scale.carries_along scale.logical_pos.1 hf.1 hf'.1,
    Scale.carries_along scale.logical_pos.2 hf.2 hf'.2⟩

end PointerState

/-- Where both succeed in the same world, their answers are related by `R`. -/
def Concur (act : ExceptT ε (StateM ω) α) (act' : ExceptT ε (StateM ω) β) (R : α → β → Prop) :
    Prop :=
  ∀ w a b, (act w).1 = .ok a → (act' w).1 = .ok b → R a b

namespace Concur

variable {act : ExceptT ε (StateM ω) α} {act' : ExceptT ε (StateM ω) β} {R : α → β → Prop}

theorem of_answers {P : α → Prop} {Q : β → Prop} (ha : Answers act P) (ha' : Answers act' Q)
    (hr : ∀ a b, P a → Q b → R a b) : Concur act act' R :=
  fun w a b hok hok' ↦ hr a b (ha w a hok) (ha' w b hok')

theorem andThen {γ : Type} (first : ExceptT ε (StateM ω) γ) {next : γ → ExceptT ε (StateM ω) α}
    {next' : γ → ExceptT ε (StateM ω) β} (hn : ∀ c, Concur (next c) (next' c) R) :
    Concur (first >>= next) (first >>= next') R := by
  intro w a b hok hok'
  rw [Attempt.bind_apply] at hok hok'
  rcases hfirst : first w with ⟨error | c, w'⟩
  · rw [hfirst] at hok
    cases hok
  · rw [hfirst] at hok hok'
    exact hn c w' a b hok hok'

theorem liftMap {γ δ : Type} (first : StateM ω γ) (f : γ → δ)
    {next : γ → ExceptT ε (StateM ω) α} {next' : δ → ExceptT ε (StateM ω) β}
    (hn : ∀ c, Concur (next c) (next' (f c)) R) :
    Concur (liftM first >>= next) (liftM (f <$> first) >>= next') R :=
  fun w ↦ hn (first w).1 (first w).2

theorem holding {act : Procedure ω α} {act' : Procedure ω β} {resource : Resource}
    (ha : Concur act act' R) : Concur (h.holding resource act) (h.holding resource act') R := by
  have hinside {γ : Type} {act : Procedure ω γ} {w : ω} {c : γ}
      (hc : (h.holding resource act w).1 = .ok c) : (act w).1 = .ok c := by
    rw [Host.holding_apply] at hc
    rcases hact : act w with ⟨error | c', w'⟩
    · rw [hact] at hc
      cases hc
    · rw [hact] at hc
      exact hc
  exact fun w a b hok hok' ↦ ha w a b (hinside hok) (hinside hok')

end Concur

namespace Session

/-- Sessions that see the same monitors and capture parts of the same area. -/
structure SameTarget (session session' : Session) : Prop where
  topology_eq : session.topology = session'.topology
  handle_eq : session.target.handle = session'.target.handle
  area_eq : session.target.area = session'.target.area
  windowScale_eq : session.target.windowScale = session'.target.windowScale

/-- What a session sees of its target, whatever part of it is captured. -/
structure Sees (topology : Topology) (handle : TargetHandle) (area : Rect) (scale : Option Scale)
    (session : Session) : Prop where
  topology_eq : session.topology = topology
  handle_eq : session.target.handle = handle
  area_eq : session.target.area = area
  windowScale_eq : session.target.windowScale = scale

theorem Sees.sameTarget {topology : Topology} {handle : TargetHandle} {area : Rect}
    {scale : Option Scale} {session session' : Session}
    (hs : session.Sees topology handle area scale)
    (hs' : session'.Sees topology handle area scale) : session.SameTarget session' where
  topology_eq := hs.topology_eq.trans hs'.topology_eq.symm
  handle_eq := hs.handle_eq.trans hs'.handle_eq.symm
  area_eq := hs.area_eq.trans hs'.area_eq.symm
  windowScale_eq := hs.windowScale_eq.trans hs'.windowScale_eq.symm

theorem setUp_sees (options : CaptureOptions) (topology : Topology) (target : ResolvedTarget)
    (layout : BitmapLayout) : Gives (setUp h options topology target layout)
      (Sees topology target.handle target.area target.windowScale) :=
  .bind (.any _) fun _ _ ↦ .bind (.any _) fun _ _ ↦ .bind (.any _) fun _ _ ↦
    .pure ⟨rfl, rfl, rfl, rfl⟩

theorem settle_eq_map {options options' : CaptureOptions}
    (hs : options'.showRegion = options.showRegion) (handle : TargetHandle) :
    settle h options' handle =
      (fun settled ↦ { options' with showRegion := settled.showRegion }) <$>
        settle h options handle := by
  unfold settle
  rw [hs]
  split
  · rfl
  · exact congrArg Pure.pure (by dsimp only; rw [← hs])

/-- Which part of a target is asked for shows only when the target was looked at. -/
theorem start_concur (options options' : CaptureOptions)
    (hs : options'.showRegion = options.showRegion) (target : CaptureTarget) :
    Concur (start h options target) (start h options' target) SameTarget := by
  refine .andThen (liftM (h.findTarget target)) fun handle ↦ ?_
  rw [settle_eq_map hs]
  refine .liftMap (settle h options handle) _ fun settled ↦ ?_
  refine .andThen (liftM (h.openSource handle)) fun _ ↦ .holding ?_
  refine .andThen (liftM h.depth) fun depth ↦ .andThen (liftM h.resolveTopology) fun topology ↦ ?_
  simp only [Host.resolveTarget, bind_assoc]
  refine .andThen (h.captureArea topology handle) fun (area, scale) ↦ ?_
  have hsetUp (settled : CaptureOptions) (rect : Rect) (layout : BitmapLayout) :
      Gives (setUp h settled topology ⟨handle, area, rect, scale⟩ layout)
        (Sees topology handle area scale) := setUp_sees settled topology ⟨_, _, _, _⟩ layout
  refine .of_answers (P := Sees topology handle area scale) (Q := Sees topology handle area scale)
    ?_ ?_ fun session session' hs hs' ↦ hs.sameTarget hs'
  all_goals
    refine .andThen (.any _) fun rect _ ↦ .andThen (.any _) fun _ _ ↦ ?_
    rw [pure_bind]
    refine .andThen (.any _) fun layout _ ↦ .andThen (.any _) fun _ _ ↦ .holding ?_
    split
    · exact .andThen (.any _) fun _ _ ↦ .lift (hsetUp _ rect layout)
    · exact .lift (hsetUp _ rect layout)

end Session

namespace PointerOverlay

theorem mem_of_drawnAt {replies : List Reply} {point : Point} (hm : point ∈ drawnAt replies) :
    ∃ reply ∈ replies, reply.call = .drawPointer point := by
  obtain ⟨⟨call, answer⟩, hreply, hat⟩ := List.mem_filterMap.mp hm
  refine ⟨_, hreply, ?_⟩
  cases call <;> cases hat
  rfl

theorem Drawing.of_desktop {topology : Topology} {rect : Rect} {scale : Scale} {made : List Reply}
    {spoken : List LogLine} {result : Except (Failure CaptureError) Unit}
    (hd : Drawing topology rect (.desktop scale) made spoken result) {pointer : PointerState}
    {point : Point} (hp : ⟨.pointer, .ok pointer⟩ ∈ made) (hm : point ∈ drawnAt made) :
    pointer.onDesktop? scale rect = some point := by
  obtain ⟨reply, hreply, hcall⟩ := mem_of_drawnAt hm
  obtain ⟨placed, placing, hplacing, -, hshows⟩ :=
    hd.placing hp (hd.visible_of_mem hp hreply (by rw [hcall]; exact nofun))
  cases hplacing with
  | offDesktop =>
    rw [hshows.2] at hm
    cases hm
  | desktop hat =>
    rw [hshows.2.2] at hm
    split at hm
    · rw [List.mem_singleton.mp hm, hat]
    · cases hm

end PointerOverlay

namespace Session

theorem Places.exists_desktop {target : ResolvedTarget} {placement : Placement}
    (hp : Places target placement) (hh : target.handle = .desktop) :
    ∃ scale, placement = .desktop scale := by
  cases hp with
  | desktop scale => exact ⟨scale, rfl⟩
  | window hh' => cases hh.symm.trans hh'

section

variable {session session' : Session} {made made' : List Reply} {told told' : List LogLine}
  {broken broken' : Bool} {pointer : PointerState} {point point' : Point}

theorem Points.of_desktop {scale : Scale}
    (ho : session.overlay.map PointerOverlay.placement = some (.desktop scale))
    (hpoints : session.Points made told broken) (hp : ⟨.pointer, .ok pointer⟩ ∈ made)
    (hm : point ∈ drawnAt made) :
    pointer.onDesktop? scale session.target.captureRect = some point := by
  obtain ⟨said, result, -, -, hd⟩ := hpoints.exists_drawing ho hp
  exact hd.of_desktop hp hm

theorem Points.fits {window : WindowId} {scale : Scale}
    (ho : session.overlay.map PointerOverlay.placement = some (.window window scale))
    (hpoints : session.Points made told broken) {asked : WindowId} {bounds : Rect}
    (hp : ⟨.pointer, .ok pointer⟩ ∈ made) (hb : ⟨.windowRect asked, .ok bounds⟩ ∈ made)
    (hm : point ∈ drawnAt made) :
    let used := (session.topology.scaleOf? bounds).getD scale
    pointer.onWindow? bounds.origin used session.target.captureRect = some point ∧
      used.Fits (pointer.inWindow bounds.origin session.target.captureRect) := by
  intro used
  obtain ⟨⟨hleft, hright⟩, htop, hbottom⟩ := hpoints.inside point hm
  have hwidth := session.target.captureRect.width_le
  have hheight := session.target.captureRect.height_le
  obtain ⟨said, result, -, -, hd⟩ := hpoints.exists_drawing ho hp
  obtain ⟨-, hshows⟩ := hd.of_windowRect hp hb
  cases hat : pointer.onWindow? bounds.origin used session.target.captureRect with
  | none =>
    rw [hat] at hshows
    rw [hshows.2] at hm
    cases hm
  | some found =>
    rw [hat] at hshows
    rw [hshows.2] at hm
    split at hm
    · obtain rfl := List.mem_singleton.mp hm
      rw [PointerState.eq_of_onWindow? hat] at hleft hright htop hbottom
      exact ⟨rfl, Scale.inRange_of_along hleft (hright.trans_le hwidth),
        Scale.inRange_of_along htop (hbottom.trans_le hheight)⟩
    · cases hm

theorem Points.spot_eq {scale : Scale}
    (ho : session.overlay.map PointerOverlay.placement = some (.desktop scale))
    (ho' : session'.overlay.map PointerOverlay.placement = some (.desktop scale))
    (hpoints : session.Points made told broken) (hpoints' : session'.Points made' told' broken')
    (hp : ⟨.pointer, .ok pointer⟩ ∈ made) (hp' : ⟨.pointer, .ok pointer⟩ ∈ made')
    (hm : point ∈ drawnAt made) (hm' : point' ∈ drawnAt made') :
    let rect := session.target.captureRect
    let rect' := session'.target.captureRect
    rect.left + point.x = rect'.left + point'.x ∧ rect.top + point.y = rect'.top + point'.y := by
  intro rect rect'
  rw [PointerState.eq_of_onDesktop? (hpoints.of_desktop ho hp hm),
    PointerState.eq_of_onDesktop? (hpoints'.of_desktop ho' hp' hm')]
  simp only [rect, rect']
  omega

theorem Points.carries {window : WindowId} {scale : Scale}
    (ho : session.overlay.map PointerOverlay.placement = some (.window window scale))
    (ho' : session'.overlay.map PointerOverlay.placement = some (.window window scale))
    (ht : session.topology = session'.topology)
    (hpoints : session.Points made told broken) (hpoints' : session'.Points made' told' broken')
    (hp : ⟨.pointer, .ok pointer⟩ ∈ made) (hp' : ⟨.pointer, .ok pointer⟩ ∈ made')
    {bounds : Rect} (hb : ⟨.windowRect window, .ok bounds⟩ ∈ made)
    (hb' : ⟨.windowRect window, .ok bounds⟩ ∈ made')
    (hm : point ∈ drawnAt made) (hm' : point' ∈ drawnAt made') :
    let rect := session.target.captureRect
    let rect' := session'.target.captureRect
    let used := (session.topology.scaleOf? bounds).getD scale
    Scale.Carries used.physical.width used.logical.width (rect'.left - rect.left)
        (point.x - point'.x) ∧
      Scale.Carries used.physical.height used.logical.height (rect'.top - rect.top)
        (point.y - point'.y) := by
  intro rect rect' used
  obtain ⟨hat, hfits⟩ := hpoints.fits ho hp hb hm
  obtain ⟨hat', hfits'⟩ := hpoints'.fits ho' hp' hb' hm'
  rw [← ht] at hat' hfits'
  exact pointer.onWindow?_carries hat hat' hfits hfits'

end

/-- A shift of the captured part moves the pointer by just as much the other way on the desktop, so
that sessions which capture different parts draw it over the same pixel of the screen. In a window
it moves by the shift times the ratio of the window's monitor, up to less than one pixel: there the
pixel is the same on every axis on which that ratio is one. -/
theorem crop_carries_pointer :
    (∀ (pointer : PointerState) (scale : Scale) (rect : Rect) (dx dy : Int) (point moved : Point),
      pointer.onDesktop? scale rect = some point →
      pointer.onDesktop? scale (rect.shift dx dy) = some moved →
      moved = ⟨point.x - dx, point.y - dy⟩) ∧
    (∀ (pointer : PointerState) (origin : Point) (scale : Scale) (rect : Rect) (dx dy : Int)
      (point moved : Point), pointer.onWindow? origin scale rect = some point →
      pointer.onWindow? origin scale (rect.shift dx dy) = some moved →
      scale.Fits (pointer.inWindow origin rect) →
      scale.Fits (pointer.inWindow origin (rect.shift dx dy)) →
      Scale.Carries scale.physical.width scale.logical.width dx (point.x - moved.x) ∧
        Scale.Carries scale.physical.height scale.logical.height dy (point.y - moved.y)) ∧
    ∀ (ω : Type) (h : Host ω) (options : CaptureOptions) (x y : Int32) (target : CaptureTarget)
      (w w₁ w₂ : ω) (session session' : Session), options.drawMouse = true →
      start h options target w = (.ok session, w₁) →
      start h { options with offsetX := x, offsetY := y } target w = (.ok session', w₂) →
      let rect := session.target.captureRect
      let rect' := session'.target.captureRect
      session.SameTarget session' ∧
      ∀ steps, ∀ episode ∈ (session.run h steps w₁).1.1,
      ∀ steps', ∀ episode' ∈ (session'.run h steps' w₂).1.1, ∀ patience patience',
        let seen := (episode.before.read h.watched patience (.ofWorld episode.world)).2.replies
        let seen' := (episode'.before.read h.watched patience' (.ofWorld episode'.world)).2.replies
        ∀ pointer, ⟨.pointer, .ok pointer⟩ ∈ seen → ⟨.pointer, .ok pointer⟩ ∈ seen' →
        ∀ point ∈ drawnAt seen, ∀ point' ∈ drawnAt seen',
          (session.target.handle = .desktop → session.overlay = session'.overlay →
            rect.left + point.x = rect'.left + point'.x ∧
              rect.top + point.y = rect'.top + point'.y) ∧
          ∀ window bounds, session.target.handle = .window window →
            ⟨.windowRect window, .ok bounds⟩ ∈ seen → ⟨.windowRect window, .ok bounds⟩ ∈ seen' →
            let used := (session.topology.scaleOf? bounds).getD
              (session.target.windowScale.getD .identity)
            Scale.Carries used.physical.width used.logical.width (rect'.left - rect.left)
                (point.x - point'.x) ∧
              Scale.Carries used.physical.height used.logical.height (rect'.top - rect.top)
                (point.y - point'.y) := by
  refine ⟨fun pointer scale rect dx dy point moved ↦ pointer.onDesktop?_shift, ?_, ?_⟩
  · intro pointer origin scale rect dx dy point moved hp hm hf hf'
    have hcarries := pointer.onWindow?_carries hp hm hf hf'
    simp only [Rect.shift, add_sub_cancel_left] at hcarries
    exact hcarries
  intro ω h options x y target w w₁ w₂ session session' hdraws hstart hstart' rect rect'
  have hok := congrArg Prod.fst hstart
  have hok' := congrArg Prod.fst hstart'
  have hsame : session.SameTarget session' :=
    start_concur options { options with offsetX := x, offsetY := y } rfl target w session session'
      hok hok'
  obtain ⟨placement, hplaces, hoverlay⟩ := start_overlay options hdraws target w session hok
  obtain ⟨placement', hplaces', hoverlay'⟩ :=
    start_overlay { options with offsetX := x, offsetY := y } hdraws target w session' hok'
  have hplacement : session.overlay.map PointerOverlay.placement = some placement := by
    rw [hoverlay]
    rfl
  have hplacement' : session'.overlay.map PointerOverlay.placement = some placement' := by
    rw [hoverlay']
    rfl
  refine ⟨hsame, ?_⟩
  intro steps episode he steps' episode' he' patience patience' seen seen' pointer hp hp' point hm
    point' hm'
  obtain ⟨-, told, -, hpoints⟩ := points_of_episode he patience
  obtain ⟨-, told', -, hpoints'⟩ := points_of_episode he' patience'
  rw [← drawnAt_filter] at hm hm'
  have hp := Reply.mem_pointers hp trivial
  have hp' := Reply.mem_pointers hp' trivial
  refine ⟨fun hh hdevice ↦ ?_, fun window bounds hh hb hb' ↦ ?_⟩
  · obtain ⟨scale, rfl⟩ := hplaces.exists_desktop hh
    rw [← hdevice, hplacement] at hplacement'
    cases hplacement'
    exact hpoints.spot_eq hplacement (hdevice ▸ hplacement) hpoints' hp hp' hm hm'
  · obtain rfl := hplaces.eq_window hh
    obtain rfl := hplaces'.eq_window (hsame.handle_eq ▸ hh)
    rw [← hsame.windowScale_eq] at hplacement'
    exact hpoints.carries hplacement hplacement' hsame.topology_eq hpoints' hp hp'
      (Reply.mem_pointers hb trivial) (Reply.mem_pointers hb' trivial) hm hm'

theorem crop_carries_pointer_of_distantWindow :
    let h := Host.assemble .inMemory .manual
    let w : World MemoryDisplay ManualClock := ⟨distantWindow, .startingAt 0⟩
    let options := { CaptureOptions.standard with
      videoSize := some ⟨3, 1⟩ }
    let pointer : PointerState := ⟨true, ⟨501, 500⟩, ⟨0, 0⟩⟩
    let doubled : Scale := ⟨⟨100, 100⟩, ⟨200, 200⟩, by decide, by decide⟩
    (pointer.onDesktop? doubled ⟨1000, 1000, 1010, 1010⟩ = some ⟨2, 0⟩ ∧
      pointer.onDesktop? doubled ⟨1001, 1000, 1011, 1010⟩ = some ⟨2 - 1, 0 - 0⟩) ∧
    (pointer.onWindow? ⟨500, 500⟩ doubled ⟨0, 0, 3, 1⟩ = some ⟨2, 0⟩ ∧
      pointer.onWindow? ⟨500, 500⟩ doubled ⟨1, 0, 4, 1⟩ = some ⟨0, 0⟩ ∧
      Scale.Carries 200 100 1 (2 - 0)) ∧
    ∃ session session' w₁ w₂, start h options (.window "editor") w = (.ok session, w₁) ∧
      start h { options with offsetX := 1, offsetY := 0 } (.window "editor") w =
        (.ok session', w₂) ∧ session.SameTarget session' ∧
      drawnAt (session.read h.watched 3 (.ofWorld w₁)).2.replies = [⟨2, 0⟩] ∧
      drawnAt (session'.read h.watched 3 (.ofWorld w₂)).2.replies = [⟨0, 0⟩] ∧
      Scale.Carries 200 100 (1 - 0) (2 - 0) := by
  intro h w options pointer doubled
  obtain ⟨hshifts, hcarries, hsessions⟩ := crop_carries_pointer
  have hfirst : pointer.onDesktop? doubled ⟨1000, 1000, 1010, 1010⟩ = some ⟨2, 0⟩ := by decide
  obtain ⟨moved, hmoved⟩ :
      ∃ moved, pointer.onDesktop? doubled ⟨1001, 1000, 1011, 1010⟩ = some moved := ⟨_, rfl⟩
  have hplace : pointer.onWindow? ⟨500, 500⟩ doubled ⟨0, 0, 3, 1⟩ = some ⟨2, 0⟩ := by decide
  have hplace' : pointer.onWindow? ⟨500, 500⟩ doubled ⟨1, 0, 4, 1⟩ = some ⟨0, 0⟩ := by decide
  refine ⟨⟨hfirst, ?_⟩, ⟨hplace, hplace', ?_⟩, ?_⟩
  · rw [hmoved, hshifts pointer doubled ⟨1000, 1000, 1010, 1010⟩ 1 0 _ _ hfirst hmoved]
  · exact (hcarries pointer ⟨500, 500⟩ doubled ⟨0, 0, 3, 1⟩ 1 0 _ _ hplace hplace' (by decide)
      (by decide)).1
  let bounds : Rect := ⟨500, 500, 510, 510⟩
  let found : ResolvedTarget := ⟨.window ⟨0x1000⟩, ⟨0, 0, 4, 2⟩, ⟨0, 0, 3, 1⟩, some doubled⟩
  obtain ⟨session, w₁, hstart, heval⟩ := exists_started (h := h) options (.window "editor") w
    (a := (⟨distantWindow.monitors⟩, found, ⟨[pointer], [(⟨0x1000⟩, bounds)], [⟨2, 0⟩]⟩))
    (f := fun session w₁ ↦ (session.topology, session.target,
      Sight.of (session.read h.watched 3 (.ofWorld w₁)).2.replies)) (by decide +kernel)
  obtain ⟨session', w₂, hstart', heval'⟩ := exists_started (h := h)
    { options with offsetX := 1, offsetY := 0 } (.window "editor") w
    (a := (⟨1, 0, 4, 1⟩, ⟨[pointer], [(⟨0x1000⟩, bounds)], [⟨0, 0⟩]⟩))
    (f := fun session w₂ ↦ (session.target.captureRect,
      Sight.of (session.read h.watched 3 (.ofWorld w₂)).2.replies)) (by decide +kernel)
  simp only [Prod.mk.injEq, Sight.of, Sight.mk.injEq] at heval heval'
  obtain ⟨htopology, htarget, hpointer, hbounds, hdrawn⟩ := heval
  obtain ⟨hrect', hpointer', hbounds', hdrawn'⟩ := heval'
  obtain ⟨hsame, hreads⟩ := hsessions _ h options 1 0 (.window "editor") w w₁ w₂ session session'
    rfl hstart hstart'
  obtain ⟨-, hwindows⟩ := hreads [.read 3] _ List.mem_cons_self [.read 3] _ List.mem_cons_self 3 3
    pointer (Reply.mem_of_pointer? (hpointer ▸ List.mem_singleton_self _))
    (Reply.mem_of_pointer? (hpointer' ▸ List.mem_singleton_self _)) ⟨2, 0⟩
    (hdrawn ▸ List.mem_singleton_self _) ⟨0, 0⟩ (hdrawn' ▸ List.mem_singleton_self _)
  have hwindow := (hwindows ⟨0x1000⟩ bounds (by rw [htarget])
    (Reply.mem_of_bounds? (hbounds ▸ List.mem_singleton_self _))
    (Reply.mem_of_bounds? (hbounds' ▸ List.mem_singleton_self _))).1
  rw [htopology, htarget, hrect'] at hwindow
  exact ⟨session, session', w₁, w₂, hstart, hstart', hsame, hdrawn, hdrawn', hwindow⟩

/-- In a window a shift by ten pixels moves the pointer by twenty, with nothing cut off. -/
theorem shift_moves_pointer_twice :
    let pointer : PointerState := ⟨true, ⟨30, 30⟩, ⟨0, 0⟩⟩
    let origin : Point := ⟨0, 0⟩
    let scale : Scale := ⟨⟨1, 1⟩, ⟨2, 2⟩, by decide, by decide⟩
    let rect : Rect := ⟨0, 0, 100, 100⟩
    let point : Point := ⟨60, 60⟩
    let moved : Point := ⟨40, 60⟩
    (scale.Fits (pointer.inWindow origin rect) ∧
      scale.Fits (pointer.inWindow origin (rect.shift 10 0)) ∧ (rect.shift 10 0).InRange) ∧
    pointer.onWindow? origin scale rect = some point ∧
      pointer.onWindow? origin scale (rect.shift 10 0) = some moved ∧
      moved ≠ ⟨point.x - 10, point.y - 0⟩ := by
  decide

end Session

end ScreenCapture

import ScreenCapture.Proofs.Rectangles

namespace ScreenCapture

namespace Coordinate

theorem inRange_saturate (v : Int) : InRange (saturate v) := by
  simp only [InRange, saturate, clamp, least, greatest]
  omega

end Coordinate

theorem Scale.inRange_edges (a b c d : Scale) (rect : Rect) :
    Rect.InRange ⟨a.x rect.left, b.y rect.top, c.x rect.right, d.y rect.bottom⟩ :=
  ⟨Coordinate.inRange_saturate _, Coordinate.inRange_saturate _, Coordinate.inRange_saturate _,
    Coordinate.inRange_saturate _⟩

theorem Scale.inRange_mapRect (scale : Scale) (rect : Rect) : (scale.mapRect rect).InRange :=
  inRange_edges scale scale scale scale rect

namespace Topology

variable {topology : Topology} {rect : Rect} {p : Point}

/-- No point is on two monitors. -/
def IsDisjoint (topology : Topology) : Prop :=
  topology.monitors.Pairwise fun m n ↦ ∀ p ∈ m.rect, p ∉ n.rect

theorem exists_get?_of_findIdx? {q : Monitor → Bool} {i : Nat}
    (hi : topology.monitors.findIdx? q = some i) : ∃ monitor, topology.get? i = some monitor := by
  obtain ⟨hlt, -⟩ := List.findIdx?_eq_some_iff_getElem.mp hi
  exact ⟨topology.monitors[i], List.getElem?_eq_getElem hlt⟩

theorem locate?_of_monitorAt? {i : Nat} (hi : topology.monitorAt? p = some i) :
    topology.locate? p = some (i, i) := by
  rw [locate?, hi]

theorem exists_get?_of_locate? {i j : Nat} (hl : topology.locate? p = some (i, j)) :
    (∃ monitor, topology.get? i = some monitor) ∧ ∃ monitor, topology.get? j = some monitor := by
  unfold locate? at hl
  split at hl
  · next hat =>
    cases hl
    exact ⟨exists_get?_of_findIdx? hat, exists_get?_of_findIdx? hat⟩
  · obtain ⟨k, hx, hl⟩ := Option.bind_eq_some_iff.mp hl
    obtain ⟨l, hy, hl⟩ := Option.bind_eq_some_iff.mp hl
    cases hl
    exact ⟨exists_get?_of_findIdx? hx, exists_get?_of_findIdx? hy⟩

theorem IsDisjoint.monitorAt?_eq (hd : topology.IsDisjoint) {i : Nat} {monitor : Monitor}
    (hi : topology.get? i = some monitor) (hp : p ∈ monitor.rect) :
    topology.monitorAt? p = some i := by
  obtain ⟨hlt, rfl⟩ := List.getElem?_eq_some_iff.mp hi
  refine List.findIdx?_eq_some_iff_getElem.mpr ⟨hlt, decide_eq_true hp, fun j hj hq ↦ ?_⟩
  exact List.pairwise_iff_getElem.mp hd j i (Nat.lt_trans hj hlt) hlt hj p (of_decide_eq_true hq) hp

theorem exists_locate? (hx : ∃ m ∈ topology.monitors, m.rect.left ≤ p.x ∧ p.x < m.rect.right)
    (hy : ∃ m ∈ topology.monitors, m.rect.top ≤ p.y ∧ p.y < m.rect.bottom) :
    ∃ axes, topology.locate? p = some axes := by
  rcases hat : topology.monitorAt? p with _ | i
  · obtain ⟨m, hm, hcolumn⟩ := hx
    obtain ⟨n, hn, hrow⟩ := hy
    have hfirst : (topology.monitorAtX? p.x).isSome := by
      rw [monitorAtX?, List.findIdx?_isSome, List.any_eq_true]
      exact ⟨m, hm, decide_eq_true hcolumn⟩
    have hsecond : (topology.monitorAtY? p.y).isSome := by
      rw [monitorAtY?, List.findIdx?_isSome, List.any_eq_true]
      exact ⟨n, hn, decide_eq_true hrow⟩
    obtain ⟨i, hi⟩ := Option.isSome_iff_exists.mp hfirst
    obtain ⟨j, hj⟩ := Option.isSome_iff_exists.mp hsecond
    refine ⟨(i, j), ?_⟩
    rw [locate?, hat]
    simp only [hi, hj]
    rfl
  · exact ⟨_, locate?_of_monitorAt? hat⟩

theorem toPhysical_of_first_unmapped (hfirst : topology.locate? rect.origin = none) :
    topology.toPhysical rect = .error (.error (.unmappedPoint rect.origin)) := by
  rw [toPhysical, locate, hfirst]
  rfl

section

variable {axes : Nat × Nat} (hfirst : topology.locate? rect.origin = some axes)
include hfirst

theorem toPhysical_of_no_last (hl : ¬ rect.LastInRange) :
    topology.toPhysical rect = .error .overflow := by
  rw [toPhysical, locate, hfirst, Rect.last?_eq_none hl]
  rfl

variable (hl : rect.LastInRange)
include hl

theorem toPhysical_of_last : topology.toPhysical rect =
    (topology.locate ⟨rect.right - 1, rect.bottom - 1⟩).mapError .error >>= fun ends ↦
      .ok ⟨topology.scaleX axes.1 rect.left, topology.scaleY axes.2 rect.top,
        topology.scaleX ends.1 rect.right, topology.scaleY ends.2 rect.bottom⟩ := by
  rw [toPhysical, locate, hfirst, Rect.last?_eq_some hl]
  rfl

theorem toPhysical_of_last_unmapped
    (hlast : topology.locate? ⟨rect.right - 1, rect.bottom - 1⟩ = none) :
    topology.toPhysical rect =
      .error (.error (.unmappedPoint ⟨rect.right - 1, rect.bottom - 1⟩)) := by
  rw [toPhysical_of_last hfirst hl, locate, hlast]
  rfl

end

theorem scaleX_of_get? {i : Nat} {monitor : Monitor} (hi : topology.get? i = some monitor)
    (v : Int) : topology.scaleX i v = monitor.scale.x v := by
  rw [scaleX, hi, Option.elim_some]

theorem scaleY_of_get? {i : Nat} {monitor : Monitor} (hi : topology.get? i = some monitor)
    (v : Int) : topology.scaleY i v = monitor.scale.y v := by
  rw [scaleY, hi, Option.elim_some]

theorem toPhysical_of_locate? {i j k l : Nat}
    (hfirst : topology.locate? rect.origin = some (i, j)) (hl : rect.LastInRange)
    (hlast : topology.locate? ⟨rect.right - 1, rect.bottom - 1⟩ = some (k, l)) :
    ∃ a b c d, topology.get? i = some a ∧ topology.get? j = some b ∧ topology.get? k = some c ∧
      topology.get? l = some d ∧ topology.toPhysical rect = .ok ⟨a.scale.x rect.left,
        b.scale.y rect.top, c.scale.x rect.right, d.scale.y rect.bottom⟩ := by
  obtain ⟨⟨a, ha⟩, b, hb⟩ := exists_get?_of_locate? hfirst
  obtain ⟨⟨c, hc⟩, d, hd⟩ := exists_get?_of_locate? hlast
  refine ⟨a, b, c, d, ha, hb, hc, hd, ?_⟩
  rw [← scaleX_of_get? ha, ← scaleY_of_get? hb, ← scaleX_of_get? hc, ← scaleY_of_get? hd,
    toPhysical_of_last hfirst hl, locate, hlast]
  rfl

/-- What comes of a mapping: each corner has to be found, and the second one has to be there. -/
inductive Mapping (topology : Topology) (rect : Rect) : Except (Failure CaptureError) Rect → Prop
  | startUnmapped : topology.locate? ⟨rect.left, rect.top⟩ = none →
    Mapping topology rect (.error (.error (.unmappedPoint ⟨rect.left, rect.top⟩)))
  | endless : topology.locate? ⟨rect.left, rect.top⟩ ≠ none → ¬ rect.LastInRange →
    Mapping topology rect (.error .overflow)
  | endUnmapped : topology.locate? ⟨rect.left, rect.top⟩ ≠ none → rect.LastInRange →
    topology.locate? ⟨rect.right - 1, rect.bottom - 1⟩ = none →
    Mapping topology rect (.error (.error (.unmappedPoint ⟨rect.right - 1, rect.bottom - 1⟩)))
  | mapped {i j k l : Nat} {a b c d : Monitor} :
    topology.locate? ⟨rect.left, rect.top⟩ = some (i, j) → rect.LastInRange →
    topology.locate? ⟨rect.right - 1, rect.bottom - 1⟩ = some (k, l) →
    topology.get? i = some a → topology.get? j = some b → topology.get? k = some c →
    topology.get? l = some d → Mapping topology rect
      (.ok ⟨a.scale.x rect.left, b.scale.y rect.top, c.scale.x rect.right, d.scale.y rect.bottom⟩)

theorem toPhysical_mapping (topology : Topology) (rect : Rect) :
    Mapping topology rect (topology.toPhysical rect) := by
  rcases hfirst : topology.locate? rect.origin with _ | ⟨i, j⟩
  · rw [toPhysical_of_first_unmapped hfirst]
    exact .startUnmapped hfirst
  · have hfound : topology.locate? rect.origin ≠ none := by rw [hfirst]; nofun
    by_cases hl : rect.LastInRange
    · rcases hlast : topology.locate? ⟨rect.right - 1, rect.bottom - 1⟩ with _ | ⟨k, l⟩
      · rw [toPhysical_of_last_unmapped hfirst hl hlast]
        exact .endUnmapped hfound hl hlast
      · obtain ⟨a, b, c, d, ha, hb, hc, hd, hok⟩ := toPhysical_of_locate? hfirst hl hlast
        rw [hok]
        exact .mapped hfirst hl hlast ha hb hc hd
    · rw [toPhysical_of_no_last hfirst hl]
      exact .endless hfound hl

theorem inRange_of_toPhysical {physical : Rect} (hp : topology.toPhysical rect = .ok physical) :
    physical.InRange := by
  have hmapping := topology.toPhysical_mapping rect
  rw [hp] at hmapping
  cases hmapping
  exact Scale.inRange_edges _ _ _ _ rect

theorem IsDisjoint.locate?_corners (hd : topology.IsDisjoint) {i : Nat} {monitor : Monitor}
    (hi : topology.get? i = some monitor) (hin : monitor.rect.Encloses rect)
    (hr : ¬ rect.IsEmpty) : topology.locate? ⟨rect.left, rect.top⟩ = some (i, i) ∧
      topology.locate? ⟨rect.right - 1, rect.bottom - 1⟩ = some (i, i) := by
  obtain ⟨hfirst, hlast⟩ := hin.corners_mem hr
  exact ⟨locate?_of_monitorAt? (hd.monitorAt?_eq hi hfirst),
    locate?_of_monitorAt? (hd.monitorAt?_eq hi hlast)⟩

theorem mem_monitors_of_get? {i : Nat} {monitor : Monitor} (hi : topology.get? i = some monitor) :
    monitor ∈ topology.monitors := List.mem_of_getElem? hi

theorem toPhysical_eq_mapRect {i j k l : Nat} {scale : Scale}
    (hfirst : topology.locate? rect.origin = some (i, j)) (hl : rect.LastInRange)
    (hlast : topology.locate? ⟨rect.right - 1, rect.bottom - 1⟩ = some (k, l))
    (hs : ∀ n ∈ [i, j, k, l], ∀ monitor, topology.get? n = some monitor → monitor.scale = scale) :
    topology.toPhysical rect = .ok (scale.mapRect rect) := by
  simp only [List.forall_mem_cons] at hs
  obtain ⟨a, b, c, d, ha, hb, hc, hd, hok⟩ := toPhysical_of_locate? hfirst hl hlast
  rw [hok, hs.1 a ha, hs.2.1 b hb, hs.2.2.1 c hc, hs.2.2.2.1 d hd]
  rfl

/-- A mapping fails with the first of the two corners that no monitors are found for, or else scales
each edge by the monitor of its own corner. It is the mapping by a single scale where these monitors
have that scale: for what lies on one of several disjoint monitors, and for everything that can be
mapped where all monitors have one scale. -/
theorem corners_are_scaled_by_their_monitors (topology : Topology) (rect : Rect)
    (hr : rect.InRange) (hright : Coordinate.least < rect.right)
    (hbottom : Coordinate.least < rect.bottom) :
    let first : Point := ⟨rect.left, rect.top⟩
    let last : Point := ⟨rect.right - 1, rect.bottom - 1⟩
    let mapping := topology.toPhysical rect
    ((∃ physical, mapping = .ok physical) ↔
      topology.locate? first ≠ none ∧ topology.locate? last ≠ none) ∧
    (topology.locate? first = none → mapping = .error (.error (.unmappedPoint first))) ∧
    (topology.locate? first ≠ none → topology.locate? last = none →
      mapping = .error (.error (.unmappedPoint last))) ∧
    (∀ i j k l, topology.locate? first = some (i, j) → topology.locate? last = some (k, l) →
      ∃ a b c d, topology.get? i = some a ∧ topology.get? j = some b ∧
        topology.get? k = some c ∧ topology.get? l = some d ∧
        mapping = .ok ⟨a.scale.x rect.left, b.scale.y rect.top, c.scale.x rect.right,
          d.scale.y rect.bottom⟩ ∧
        ∀ scale, a.scale = scale → b.scale = scale → c.scale = scale → d.scale = scale →
          mapping = .ok (scale.mapRect rect)) ∧
    (topology.IsDisjoint → ∀ i monitor, topology.get? i = some monitor →
      monitor.rect.Encloses rect → ¬ rect.IsEmpty → mapping = .ok (monitor.scale.mapRect rect)) ∧
    ∀ scale, (∀ monitor ∈ topology.monitors, monitor.scale = scale) →
      ∀ physical, mapping = .ok physical → physical = scale.mapRect rect := by
  intro first last mapping
  have hl : rect.LastInRange := (Rect.lastInRange_iff hr).mpr ⟨hright, hbottom⟩
  have hcorners {physical : Rect} (hp : mapping = .ok physical) : ∃ i j k l,
      topology.locate? first = some (i, j) ∧ topology.locate? last = some (k, l) := by
    have hmapping : Mapping topology rect mapping := topology.toPhysical_mapping rect
    rw [hp] at hmapping
    cases hmapping with
    | mapped hfirst _ hlast => exact ⟨_, _, _, _, hfirst, hlast⟩
  refine ⟨⟨fun ⟨physical, hp⟩ ↦ ?_, fun ⟨hfirst, hlast⟩ ↦ ?_⟩, toPhysical_of_first_unmapped,
    fun hfirst hlast ↦ ?_, fun i j k l hfirst hlast ↦ ?_, fun hdisjoint i monitor hi hin hempty ↦ ?_,
    fun scale hscale physical hp ↦ ?_⟩
  · obtain ⟨i, j, k, l, hfirst, hlast⟩ := hcorners hp
    exact ⟨Option.ne_none_iff_exists'.mpr ⟨_, hfirst⟩, Option.ne_none_iff_exists'.mpr ⟨_, hlast⟩⟩
  · obtain ⟨⟨i, j⟩, hfirst⟩ := Option.ne_none_iff_exists'.mp hfirst
    obtain ⟨⟨k, l⟩, hlast⟩ := Option.ne_none_iff_exists'.mp hlast
    obtain ⟨_, _, _, _, -, -, -, -, hok⟩ := toPhysical_of_locate? hfirst hl hlast
    exact ⟨_, hok⟩
  · obtain ⟨axes, hfirst⟩ := Option.ne_none_iff_exists'.mp hfirst
    exact toPhysical_of_last_unmapped hfirst hl hlast
  · obtain ⟨a, b, c, d, ha, hb, hc, hd, hok⟩ := toPhysical_of_locate? hfirst hl hlast
    refine ⟨a, b, c, d, ha, hb, hc, hd, hok, fun scale hsa hsb hsc hsd ↦ hok.trans ?_⟩
    rw [hsa, hsb, hsc, hsd]
    rfl
  · obtain ⟨hfirst, hlast⟩ := hdisjoint.locate?_corners hi hin hempty
    refine toPhysical_eq_mapRect hfirst hl hlast fun n hn m hm ↦ ?_
    obtain rfl : n = i := by simpa using hn
    rw [Option.some.inj (hi.symm.trans hm)]
  · obtain ⟨i, j, k, l, hfirst, hlast⟩ := hcorners hp
    have hmapped := toPhysical_eq_mapRect hfirst hl hlast fun n _ m hm ↦
      hscale m (mem_monitors_of_get? hm)
    exact Except.ok.inj (hp.symm.trans hmapped)

theorem corners_are_scaled_by_their_monitors_mixed :
    let scaled : Scale := ⟨⟨1536, 864⟩, ⟨1920, 1080⟩, by decide, by decide⟩
    let plain : Scale := ⟨⟨1920, 1080⟩, ⟨1920, 1080⟩, by decide, by decide⟩
    let mixed : Topology := ⟨[⟨⟨0, 0, 1536, 864⟩, scaled⟩, ⟨⟨1536, 0, 3456, 1080⟩, plain⟩]⟩
    let equal : Topology := ⟨[⟨⟨0, 0, 1536, 864⟩, scaled⟩, ⟨⟨1536, 864, 3072, 1728⟩, scaled⟩]⟩
    mixed.toPhysical ⟨0, 0, 4000, 1080⟩ = .error (.error (.unmappedPoint ⟨3999, 1079⟩)) ∧
      mixed.toPhysical ⟨0, 0, 3456, 1080⟩ = .ok ⟨0, 0, 3456, 1080⟩ ∧
      mixed.toPhysical ⟨100, 37, 1001, 555⟩ = .ok ⟨125, 46, 1251, 693⟩ ∧
      equal.toPhysical ⟨0, 0, 3072, 1728⟩ = .ok ⟨0, 0, 3840, 2160⟩ := by
  intro scaled plain mixed equal
  have hdisjoint : mixed.IsDisjoint := by
    refine List.pairwise_cons.mpr ⟨fun n hn p hp hq ↦ ?_, List.pairwise_singleton _ _⟩
    obtain rfl := List.mem_singleton.mp hn
    simp only [Rect.mem_iff] at hp hq
    omega
  have hequal : ∀ monitor ∈ equal.monitors, monitor.scale = scaled := by decide
  obtain ⟨-, -, hgap, -⟩ := corners_are_scaled_by_their_monitors mixed ⟨0, 0, 4000, 1080⟩
    (by decide) (by decide) (by decide)
  obtain ⟨-, -, -, hspan, -⟩ := corners_are_scaled_by_their_monitors mixed ⟨0, 0, 3456, 1080⟩
    (by decide) (by decide) (by decide)
  obtain ⟨-, -, -, -, hinside, -⟩ := corners_are_scaled_by_their_monitors mixed
    ⟨100, 37, 1001, 555⟩ (by decide) (by decide) (by decide)
  obtain ⟨⟨-, hmapped⟩, -, -, -, -, hscale⟩ := corners_are_scaled_by_their_monitors equal
    ⟨0, 0, 3072, 1728⟩ (by decide) (by decide) (by decide)
  obtain ⟨physical, hok⟩ := hmapped ⟨by decide, by decide⟩
  obtain ⟨a, b, c, d, ha, hb, hc, hd, hspanned, -⟩ := hspan 0 0 1 1 (by decide) (by decide)
  refine ⟨hgap (by decide) (by decide), hspanned.trans (congrArg _ ?_),
    (hinside hdisjoint 0 _ rfl (by decide) (by decide)).trans (congrArg _ (by decide)),
    hok.trans (congrArg _ ((hscale scaled hequal physical hok).trans (by decide)))⟩
  cases ha
  cases hb
  cases hc
  cases hd
  decide

end Topology

end ScreenCapture

import ScreenCapture.Proofs.Mapping
import Mathlib.Data.List.Perm.Basic
import Mathlib.Order.Bounds.Basic

namespace ScreenCapture

theorem Scale.combine_self (scale : Scale) : combine scale scale = scale := rfl

namespace Topology

/-- The places, in the order of the enumeration, of the monitors with a property. -/
def places (topology : Topology) (q : Monitor → Prop) : Set Nat :=
  {i | ∃ m, topology.get? i = some m ∧ q m}

variable {topology topology' : Topology} {p : Point} {i j : Nat} {m : Monitor}

section

variable {q : Monitor → Prop} [DecidablePred q]

theorem findIdx?_eq_some_iff_isLeast :
    topology.monitors.findIdx? (fun m ↦ q m) = some i ↔ IsLeast (topology.places q) i := by
  rw [List.findIdx?_eq_some_iff_getElem]
  constructor
  · rintro ⟨hlt, hq, hbefore⟩
    refine ⟨⟨_, List.getElem?_eq_getElem hlt, of_decide_eq_true hq⟩, ?_⟩
    rintro j ⟨m, hm, hqm⟩
    obtain ⟨_, rfl⟩ := List.getElem?_eq_some_iff.mp hm
    exact Nat.le_of_not_lt fun hji ↦ hbefore j hji (decide_eq_true hqm)
  · rintro ⟨⟨m, hm, hqm⟩, hleast⟩
    obtain ⟨hlt, rfl⟩ := List.getElem?_eq_some_iff.mp hm
    refine ⟨hlt, decide_eq_true hqm, fun j hji hqj ↦ ?_⟩
    have hle : i ≤ j := hleast ⟨_, List.getElem?_eq_getElem (hji.trans hlt), of_decide_eq_true hqj⟩
    omega

theorem findIdx?_eq_none_iff_forall :
    topology.monitors.findIdx? (fun m ↦ q m) = none ↔ ∀ m ∈ topology.monitors, ¬ q m := by
  simp only [List.findIdx?_eq_none_iff, decide_eq_false_iff_not]

end

theorem lt_length_of_mem_places {q : Monitor → Prop} (hi : i ∈ topology.places q) :
    i < topology.monitors.length := by
  obtain ⟨m, hm, -⟩ := hi
  exact (List.getElem?_eq_some_iff.mp hm).1

def InColumn (x : Int) (m : Monitor) : Prop := m.rect.left ≤ x ∧ x < m.rect.right

def InRow (y : Int) (m : Monitor) : Prop := m.rect.top ≤ y ∧ y < m.rect.bottom

theorem monitorAt?_eq_some_iff :
    topology.monitorAt? p = some i ↔ IsLeast (topology.places fun m ↦ p ∈ m.rect) i :=
  findIdx?_eq_some_iff_isLeast

theorem monitorAt?_eq_none_iff :
    topology.monitorAt? p = none ↔ ∀ m ∈ topology.monitors, p ∉ m.rect :=
  findIdx?_eq_none_iff_forall

theorem locate?_of_monitorAt?_eq_none (hat : topology.monitorAt? p = none) :
    topology.locate? p = some (i, j) ↔
      topology.monitorAtX? p.x = some i ∧ topology.monitorAtY? p.y = some j := by
  rw [locate?, hat]
  simp only [Option.bind_eq_bind, Option.bind_eq_some_iff, pure, Option.some.injEq, Prod.mk.injEq]
  constructor
  · rintro ⟨_, hx, _, hy, rfl, rfl⟩
    exact ⟨hx, hy⟩
  · rintro ⟨hx, hy⟩
    exact ⟨i, hx, j, hy, rfl, rfl⟩

theorem locate?_eq_some_iff : topology.locate? p = some (i, j) ↔
    (IsLeast (topology.places fun m ↦ p ∈ m.rect) i ∧ j = i) ∨
    ((∀ m ∈ topology.monitors, p ∉ m.rect) ∧
      IsLeast (topology.places (InColumn p.x)) i ∧ IsLeast (topology.places (InRow p.y)) j) := by
  -- the axes are looked at one by one only where no monitor has the point
  rcases hat : topology.monitorAt? p with _ | k
  · rw [locate?_of_monitorAt?_eq_none hat]
    have hoff := monitorAt?_eq_none_iff.mp hat
    have hcolumn : topology.monitorAtX? p.x = some i ↔ IsLeast (topology.places (InColumn p.x)) i :=
      findIdx?_eq_some_iff_isLeast
    have hrow : topology.monitorAtY? p.y = some j ↔ IsLeast (topology.places (InRow p.y)) j :=
      findIdx?_eq_some_iff_isLeast
    rw [hcolumn, hrow]
    constructor
    · intro hboth
      exact .inr ⟨hoff, hboth⟩
    · rintro (⟨⟨⟨m, hm, hp⟩, -⟩, -⟩ | ⟨-, hboth⟩)
      · exact absurd hp (hoff m (mem_monitors_of_get? hm))
      · exact hboth
  · have hleast := monitorAt?_eq_some_iff.mp hat
    rw [locate?_of_monitorAt? hat, Option.some.injEq, Prod.mk.injEq]
    constructor
    · rintro ⟨rfl, rfl⟩
      exact .inl ⟨hleast, rfl⟩
    · rintro (⟨hi, rfl⟩ | ⟨hoff, -⟩)
      · exact ⟨hleast.unique hi, hleast.unique hi⟩
      · obtain ⟨m, hm, hp⟩ := hleast.1
        exact absurd hp (hoff m (mem_monitors_of_get? hm))

theorem locate?_eq_none_iff : topology.locate? p = none ↔
    (∀ m ∈ topology.monitors, ¬ InColumn p.x m) ∨ ∀ m ∈ topology.monitors, ¬ InRow p.y m := by
  constructor
  · intro hnone
    by_contra hspanned
    push Not at hspanned
    obtain ⟨hcolumn, hrow⟩ := hspanned
    obtain ⟨axes, hl⟩ := exists_locate? hcolumn hrow
    rw [hnone] at hl
    cases hl
  · intro hoff
    rcases hl : topology.locate? p with _ | ⟨i, j⟩
    · rfl
    · exfalso
      have hspanned : (∃ m ∈ topology.monitors, InColumn p.x m) ∧
          ∃ m ∈ topology.monitors, InRow p.y m := by
        rcases locate?_eq_some_iff.mp hl with
          ⟨⟨⟨m, hm, hp⟩, -⟩, -⟩ | ⟨-, ⟨⟨m, hm, hx⟩, -⟩, ⟨n, hn, hy⟩, -⟩
        · exact ⟨⟨m, mem_monitors_of_get? hm, hp.1⟩, m, mem_monitors_of_get? hm, hp.2⟩
        · exact ⟨⟨m, mem_monitors_of_get? hm, hx⟩, n, mem_monitors_of_get? hn, hy⟩
      obtain ⟨⟨m, hm, hx⟩, n, hn, hy⟩ := hspanned
      rcases hoff with hoff | hoff
      · exact hoff m hm hx
      · exact hoff n hn hy

theorem IsDisjoint.of_perm (hd : topology.IsDisjoint)
    (hperm : topology.monitors.Perm topology'.monitors) : topology'.IsDisjoint :=
  hperm.pairwise hd fun hmn p hn hm ↦ hmn p hm hn

section

variable (hd : topology.IsDisjoint) (hm : m ∈ topology.monitors)
include hd hm

theorem IsDisjoint.exists_monitorAt? (hp : p ∈ m.rect) :
    ∃ i, topology.get? i = some m ∧ topology.monitorAt? p = some i := by
  obtain ⟨i, hlt, rfl⟩ := List.getElem_of_mem hm
  have hi : topology.get? i = some topology.monitors[i] := List.getElem?_eq_getElem hlt
  exact ⟨i, hi, hd.monitorAt?_eq hi hp⟩

theorem IsDisjoint.monitorAt?_bind (hp : p ∈ m.rect) :
    (topology.monitorAt? p).bind topology.get? = some m := by
  obtain ⟨i, hi, hat⟩ := hd.exists_monitorAt? hm hp
  rw [hat, Option.bind_some, hi]

theorem IsDisjoint.scaleOf?_eq {rect : Rect} (hp : rect.center ∈ m.rect) :
    topology.scaleOf? rect = some m.scale := by
  obtain ⟨i, hi, hat⟩ := hd.exists_monitorAt? hm hp
  simp only [scaleOf?, locate?_of_monitorAt? hat, hi, Option.bind_eq_bind, Option.bind_some,
    Scale.combine_self]
  rfl

theorem IsDisjoint.toPhysical_eq {n : Monitor} (hn : n ∈ topology.monitors) {rect : Rect}
    (hr : n.rect.InRange) (hfirst : (⟨rect.left, rect.top⟩ : Point) ∈ m.rect)
    (hlast : (⟨rect.right - 1, rect.bottom - 1⟩ : Point) ∈ n.rect) :
    topology.toPhysical rect = .ok ⟨m.scale.x rect.left, m.scale.y rect.top,
      n.scale.x rect.right, n.scale.y rect.bottom⟩ := by
  obtain ⟨i, hi, hat⟩ := hd.exists_monitorAt? hm hfirst
  obtain ⟨k, hk, hat'⟩ := hd.exists_monitorAt? hn hlast
  obtain ⟨a, b, c, d, ha, hb, hc, hd, hok⟩ :=
    toPhysical_of_locate? (locate?_of_monitorAt? hat) (Rect.lastInRange_of_mem hr hlast)
      (locate?_of_monitorAt? hat')
  rw [hi] at ha hb
  rw [hk] at hc hd
  cases ha
  cases hb
  cases hc
  cases hd
  exact hok

end

/-- A point is located by the first monitor that it is on. A point off all monitors is located by
the first of its column and the first of its row, and it has no location if there is no monitor of
its column or none of its row. If disjoint monitors are enumerated in another order, the monitor of
each point on one of them stays the same, and with it the scale of what has its center there and
the image of what has both its corners on monitors. -/
theorem points_are_located_by_first_monitors (topology : Topology) :
    (∀ p : Point,
      (topology.locate? p = none ↔
        (∀ m ∈ topology.monitors, ¬ (m.rect.left ≤ p.x ∧ p.x < m.rect.right)) ∨
        ∀ m ∈ topology.monitors, ¬ (m.rect.top ≤ p.y ∧ p.y < m.rect.bottom)) ∧
      ∀ i j, topology.locate? p = some (i, j) ↔
        (IsLeast {k | ∃ m, topology.get? k = some m ∧ p ∈ m.rect} i ∧ j = i) ∨
        ((∀ m ∈ topology.monitors, p ∉ m.rect) ∧
          IsLeast {k | ∃ m, topology.get? k = some m ∧ m.rect.left ≤ p.x ∧ p.x < m.rect.right} i ∧
          IsLeast {k | ∃ m, topology.get? k = some m ∧ m.rect.top ≤ p.y ∧ p.y < m.rect.bottom} j)) ∧
    (∀ p i j, topology.locate? p = some (i, j) →
      i < topology.monitors.length ∧ j < topology.monitors.length) ∧
    ∀ topology' : Topology, topology.IsDisjoint → topology.monitors.Perm topology'.monitors →
      (∀ m ∈ topology.monitors, ∀ p ∈ m.rect,
        (topology.monitorAt? p).bind topology.get? = some m ∧
        (topology'.monitorAt? p).bind topology'.get? = some m) ∧
      (∀ m ∈ topology.monitors, ∀ rect : Rect, rect.center ∈ m.rect →
        (topology.monitorOf? rect).bind topology.get? = some m ∧
        (topology'.monitorOf? rect).bind topology'.get? = some m ∧
        topology.scaleOf? rect = some m.scale ∧ topology'.scaleOf? rect = some m.scale) ∧
      ∀ rect : Rect, (∀ m ∈ topology.monitors, m.rect.InRange) →
        (∃ m ∈ topology.monitors, (⟨rect.left, rect.top⟩ : Point) ∈ m.rect) →
        (∃ n ∈ topology.monitors, (⟨rect.right - 1, rect.bottom - 1⟩ : Point) ∈ n.rect) →
          ∃ physical, topology.toPhysical rect = .ok physical ∧
            topology'.toPhysical rect = .ok physical := by
  refine ⟨fun p ↦ ⟨locate?_eq_none_iff, fun i j ↦ locate?_eq_some_iff⟩, fun p i j hl ↦ ?_,
    fun topology' hd hperm ↦ ?_⟩
  · rcases locate?_eq_some_iff.mp hl with ⟨hi, rfl⟩ | ⟨-, hi, hj⟩
    · exact ⟨lt_length_of_mem_places hi.1, lt_length_of_mem_places hi.1⟩
    · exact ⟨lt_length_of_mem_places hi.1, lt_length_of_mem_places hj.1⟩
  · have hd' := hd.of_perm hperm
    have hmem {m : Monitor} (hm : m ∈ topology.monitors) : m ∈ topology'.monitors :=
      hperm.mem_iff.mp hm
    refine ⟨?_, ?_, ?_⟩
    · intro m hm p hp
      exact ⟨hd.monitorAt?_bind hm hp, hd'.monitorAt?_bind (hmem hm) hp⟩
    · intro m hm rect hp
      exact ⟨hd.monitorAt?_bind hm hp, hd'.monitorAt?_bind (hmem hm) hp, hd.scaleOf?_eq hm hp,
        hd'.scaleOf?_eq (hmem hm) hp⟩
    · rintro rect hr ⟨m, hm, hfirst⟩ ⟨n, hn, hlast⟩
      exact ⟨_, hd.toPhysical_eq hm hn (hr n hn) hfirst hlast,
        hd'.toPhysical_eq (hmem hm) (hmem hn) (hr n hn) hfirst hlast⟩

theorem points_are_located_by_first_monitors_beside_gap :
    let scaled : Scale := ⟨⟨2560, 1440⟩, ⟨3840, 2160⟩, by decide, by decide⟩
    let left : Monitor := ⟨⟨0, 0, 2560, 1440⟩, scaled⟩
    let right : Monitor := ⟨⟨2560, 200, 4480, 1280⟩, .identity⟩
    let topology : Topology := ⟨[left, right]⟩
    let reversed : Topology := ⟨[right, left]⟩
    let desktop : Rect := ⟨0, 0, 4480, 1280⟩
    topology.locate? ⟨4480, 300⟩ = none ∧
      topology.locate? ⟨3000, 100⟩ = some (1, 0) ∧ 1 < topology.monitors.length ∧
      (reversed.monitorAt? ⟨2560, 200⟩).bind reversed.get? = some right ∧
      reversed.scaleOf? ⟨2000, 100, 3400, 700⟩ = some right.scale ∧
      ∃ physical, topology.toPhysical desktop = .ok physical ∧
        reversed.toPhysical desktop = .ok physical := by
  intro scaled left right topology reversed desktop
  have hdisjoint : topology.IsDisjoint := by
    refine List.pairwise_cons.mpr ⟨fun n hn p hp hq ↦ ?_, List.pairwise_singleton _ _⟩
    obtain rfl := List.mem_singleton.mp hn
    simp only [Rect.mem_iff, left, right] at hp hq
    omega
  obtain ⟨hpoints, hplaces, horders⟩ := points_are_located_by_first_monitors topology
  obtain ⟨hat, hof, hmapped⟩ := horders reversed hdisjoint (by decide)
  have hgap : topology.locate? ⟨3000, 100⟩ = some (1, 0) := by decide
  exact ⟨(hpoints ⟨4480, 300⟩).1.mpr (by decide), hgap, (hplaces _ _ _ hgap).1,
    (hat right (by decide) ⟨2560, 200⟩ (by decide)).2,
    (hof right (by decide) ⟨2000, 100, 3400, 700⟩ (by decide)).2.2.2,
    hmapped desktop (by decide) (by decide) (by decide)⟩

end Topology

end ScreenCapture

import ScreenCapture.Proofs.Rectangles

namespace ScreenCapture

namespace Rect

variable {r s box : Rect} {rects : List Rect}

theorem Encloses.antisymm (hr : r.Encloses s) (hs : s.Encloses r) : r = s := by
  cases r
  cases s
  simp only [Encloses] at hr hs
  simp only [Rect.mk.injEq]
  omega

theorem Encloses.mem (he : r.Encloses s) {p : Point} (hp : p ∈ s) : p ∈ r := by
  simp only [Encloses] at he
  simp only [mem_iff] at hp ⊢
  omega

theorem Bounds.least (hb : box.Bounds rects) (hr : ∀ s ∈ rects, ¬ s.IsEmpty → r.Encloses s) :
    r.Encloses box := by
  -- each edge is one of the list's, and `r` is around the rectangle it comes from
  obtain ⟨a, ha, hapixels, hleft⟩ := hb.left
  obtain ⟨b, hb', hbpixels, htop⟩ := hb.top
  obtain ⟨c, hc, hcpixels, hright⟩ := hb.right
  obtain ⟨d, hd, hdpixels, hbottom⟩ := hb.bottom
  refine ⟨?_, ?_, ?_, ?_⟩
  · exact hleft ▸ (hr a ha hapixels).1
  · exact htop ▸ (hr b hb' hbpixels).2.1
  · exact hright ▸ (hr c hc hcpixels).2.2.1
  · exact hbottom ▸ (hr d hd hdpixels).2.2.2

theorem Bounds.unique (hb : box.Bounds rects) (hr : r.Bounds rects) : box = r :=
  (hr.least hb.encloses).antisymm (hb.least hr.encloses)

end Rect

namespace Topology

variable {topology : Topology}

theorem exists_of_attains {edge : Rect → Int} {v : Int}
    (ha : Rect.Attains (topology.monitors.map Monitor.rect) edge v) :
    ∃ m ∈ topology.monitors, (m.rect.left < m.rect.right ∧ m.rect.top < m.rect.bottom) ∧
      edge m.rect = v := by
  obtain ⟨r, hmem, hpixels, hv⟩ := ha
  obtain ⟨m, hm, rfl⟩ := List.mem_map.mp hmem
  exact ⟨m, hm, Rect.lt_of_not_isEmpty hpixels, hv⟩

theorem bounds_combined (hm : ∃ m ∈ topology.monitors, ¬ m.rect.IsEmpty) :
    topology.combined.Bounds (topology.monitors.map Monitor.rect) := by
  obtain ⟨m, hmem, hpixels⟩ := hm
  exact bounds_boundingRect ⟨m.rect, List.mem_map_of_mem hmem, hpixels⟩

theorem ofMonitors_of_mem {monitors : List Monitor} {m : Monitor} (hm : m ∈ monitors) :
    ofMonitors monitors = .ok ⟨monitors⟩ := by
  cases hm <;> rfl

theorem combined_congr {monitors monitors' : List Monitor}
    (hm : ∃ m ∈ monitors, ¬ m.rect.IsEmpty)
    (hsame : ∀ m, ¬ m.rect.IsEmpty → (m ∈ monitors ↔ m ∈ monitors')) :
    combined ⟨monitors'⟩ = combined ⟨monitors⟩ := by
  obtain ⟨m, hmem, hpixels⟩ := hm
  have hbounds : (combined ⟨monitors⟩).Bounds (monitors.map Monitor.rect) :=
    bounds_combined ⟨m, hmem, hpixels⟩
  have hbounds' : (combined ⟨monitors'⟩).Bounds (monitors'.map Monitor.rect) :=
    bounds_combined ⟨m, (hsame m hpixels).mp hmem, hpixels⟩
  refine hbounds'.unique (hbounds.of_mem_iff fun r hr ↦ ?_)
  simp only [List.mem_map]
  constructor
  · rintro ⟨n, hn, rfl⟩
    exact ⟨n, (hsame n hr).mp hn, rfl⟩
  · rintro ⟨n, hn, rfl⟩
    exact ⟨n, (hsame n hr).mpr hn, rfl⟩

/-- If a monitor has pixels, then the combined rectangle is the least one around all that have. It
has pixels itself, it has every point of a monitor, and each edge of it is the edge of a monitor
with pixels. It stays what it is if the monitors are reordered and if empty ones come or go. -/
theorem combined_is_least_around_pixels (monitors : List Monitor)
    (hm : ∃ m ∈ monitors, ¬ m.rect.IsEmpty) :
    ∃ topology, ofMonitors monitors = .ok topology ∧
      let box := topology.combined
      (∀ m ∈ monitors, ¬ m.rect.IsEmpty → box.Encloses m.rect) ∧
      (∀ other : Rect, (∀ m ∈ monitors, ¬ m.rect.IsEmpty → other.Encloses m.rect) →
        other.Encloses box) ∧
      ¬ box.IsEmpty ∧
      (∀ m ∈ monitors, ∀ p ∈ m.rect, p ∈ box) ∧
      (∀ edge ∈ [Rect.left, Rect.top, Rect.right, Rect.bottom],
        ∃ m ∈ monitors, ¬ m.rect.IsEmpty ∧ edge m.rect = edge box) ∧
      ∀ monitors' : List Monitor,
        (monitors.filter fun m ↦ ¬ m.rect.IsEmpty).Perm
          (monitors'.filter fun m ↦ ¬ m.rect.IsEmpty) →
        ∃ topology', ofMonitors monitors' = .ok topology' ∧ topology'.combined = box := by
  obtain ⟨m, hmem, hpixels⟩ := hm
  refine ⟨⟨monitors⟩, ofMonitors_of_mem hmem, ?_⟩
  intro box
  have hbounds : box.Bounds (monitors.map Monitor.rect) := bounds_combined ⟨m, hmem, hpixels⟩
  have hencloses : ∀ n ∈ monitors, ¬ n.rect.IsEmpty → box.Encloses n.rect :=
    fun n hn ↦ hbounds.encloses n.rect (List.mem_map_of_mem hn)
  have hattained {edge : Rect → Int}
      (ha : Rect.Attains (monitors.map Monitor.rect) edge (edge box)) :
      ∃ n ∈ monitors, ¬ n.rect.IsEmpty ∧ edge n.rect = edge box := by
    obtain ⟨r, hr, hrpixels, hedge⟩ := ha
    obtain ⟨n, hn, rfl⟩ := List.mem_map.mp hr
    exact ⟨n, hn, hrpixels, hedge⟩
  refine ⟨hencloses, fun other hother ↦ ?_, hbounds.not_isEmpty, fun n hn p hp ↦ ?_, ?_,
    fun monitors' hperm ↦ ?_⟩
  · apply hbounds.least
    intro r hr hrpixels
    obtain ⟨n, hn, rfl⟩ := List.mem_map.mp hr
    exact hother n hn hrpixels
  · exact (hencloses n hn (Rect.not_isEmpty_of_mem hp)).mem hp
  · simp only [List.forall_mem_cons]
    exact ⟨hattained hbounds.left, hattained hbounds.top, hattained hbounds.right,
      hattained hbounds.bottom, nofun⟩
  · have hsame : ∀ n : Monitor, ¬ n.rect.IsEmpty → (n ∈ monitors ↔ n ∈ monitors') := by
      intro n hn
      have hiff := hperm.mem_iff (a := n)
      simpa only [List.mem_filter, decide_eq_true hn, and_true] using hiff
    exact ⟨_, ofMonitors_of_mem ((hsame m hpixels).mp hmem),
      combined_congr ⟨m, hmem, hpixels⟩ hsame⟩

theorem combined_is_least_around_pixels_of_mixed :
    let left : Monitor := ⟨⟨-1280, -200, 0, 824⟩, .identity⟩
    let right : Monitor := ⟨⟨0, 0, 1920, 768⟩, .identity⟩
    let inverted : Monitor := ⟨⟨5000, 5000, -5000, -5000⟩, .identity⟩
    let empty : Monitor := ⟨⟨7, 7, 7, 9⟩, .identity⟩
    let box : Rect := ⟨-1280, -200, 1920, 824⟩
    ∃ topology topology', ofMonitors [inverted, left, empty, right] = .ok topology ∧
      topology.combined = box ∧ box.Encloses left.rect ∧
      (⟨-100000, -200, 1920, 824⟩ : Rect).Encloses box ∧ (⟨0, 767⟩ : Point) ∈ box ∧
      ofMonitors [right, left] = .ok topology' ∧ topology'.combined = box := by
  intro left right inverted empty box
  obtain ⟨topology, hnew, hencloses, hleast, -, hpoints, -, hsame⟩ :=
    combined_is_least_around_pixels [inverted, left, empty, right] (by decide)
  obtain ⟨topology', hnew', heq⟩ := hsame [right, left] (by decide)
  cases hnew
  have hbox : combined ⟨[inverted, left, empty, right]⟩ = box := by decide
  rw [hbox] at hencloses hleast hpoints heq
  exact ⟨_, topology', rfl, hbox, hencloses left (by decide) (by decide), hleast _ (by decide),
    hpoints right (by decide) _ (by decide), hnew', heq⟩

end Topology

end ScreenCapture

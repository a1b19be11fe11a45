import ScreenCapture.Proofs.CheckedCoordinates
import ScreenCapture.Proofs.Desktop
import ScreenCapture.Proofs.Location

namespace ScreenCapture

namespace Host

variable {ω : Type} {h : Host ω} {topology : Topology} {w w₁ : ω}

theorem captureArea_window {window : WindowId} {bounds client : Rect} {scale : Scale}
    (hw : h.windowRect window w = (.ok bounds, w₁)) (hs : topology.scaleOf? bounds = some scale)
    (hc : (h.clientRect window w₁).1 = .ok client) :
    (h.captureArea topology (.window window) w).1 = .ok (scale.mapRect client, some scale) := by
  have hscale : h.scaleOfWindow topology bounds w₁ = (.ok scale, w₁) := by
    simp only [scaleOfWindow, hs]
    rfl
  rcases ha : h.clientRect window w₁ with ⟨answer, w₂⟩
  rw [ha] at hc
  cases hc
  simp only [captureArea, Attempt.bind_apply, Attempt.embed_apply, hw, hscale, ha, Except.mapError]
  rfl

end Host

namespace Topology

/-- A window on one of several disjoint monitors has its center there. So the monitor of the window
is that one, its scale is that monitor's, and what is captured of it is selected from its inside in
that scale. -/
theorem window_takes_scale_of_its_monitor {topology : Topology} (hd : topology.IsDisjoint) {i : Nat}
    {monitor : Monitor} (hi : topology.get? i = some monitor) {bounds : Rect}
    (hr : bounds.InRange) (hb : ¬ bounds.IsEmpty) (hin : monitor.rect.Encloses bounds) :
    bounds.center? = some bounds.center ∧ bounds.center ∈ bounds ∧
    topology.monitorOf? bounds = some i ∧ topology.scaleOf? bounds = some monitor.scale ∧
    ∀ (ω : Type) (h : Host ω) (window : WindowId) (client : Rect) (request : CaptureRequest)
      (depth : Nat) (w w₁ : ω), h.windowRect window w = (.ok bounds, w₁) →
      (h.clientRect window w₁).1 = .ok client →
      let area := monitor.scale.mapRect client
      (h.resolveTarget topology (.window window) request depth w).1 =
        ((request.select area depth).map fun rect ↦
          ⟨.window window, area, rect, some monitor.scale⟩).mapError .error := by
  have hcenter : bounds.center ∈ monitor.rect := hin.mem (Rect.center_mem hb)
  have hscale : topology.scaleOf? bounds = some monitor.scale :=
    hd.scaleOf?_eq (mem_monitors_of_get? hi) hcenter
  refine ⟨Rect.center?_eq_some hr, Rect.center_mem hb, hd.monitorAt?_eq hi hcenter, hscale, ?_⟩
  intro ω h window client request depth w w₁ hw hc area
  exact Host.resolveTarget_eq_map (Host.captureArea_window hw hscale hc)

theorem window_takes_scale_of_its_monitor_below :
    let doubled : Scale := ⟨⟨100, 100⟩, ⟨200, 200⟩, by decide, by decide⟩
    let upper : Monitor := ⟨⟨-2147483648, -1080, 2147483647, 0⟩, .identity⟩
    let lower : Monitor := ⟨⟨-2147483648, 0, 2147483647, 1080⟩, doubled⟩
    let topology : Topology := ⟨[upper, lower]⟩
    let bounds := lower.rect
    let display := (MemoryDisplay.withMonitors topology.monitors).addWindow "editor" bounds
      ⟨0, 0, 300, 200⟩
    bounds.width < bounds.right - bounds.left ∧
      bounds.center? = some ⟨-1073741825, 540⟩ ∧ topology.monitorOf? bounds = some 1 ∧
      topology.scaleOf? bounds = some doubled ∧
      ((Host.assemble .inMemory .manual).resolveTarget topology (.window ⟨0x1000⟩) .wholeArea 32
        ⟨display, .startingAt 0⟩).1 =
          .ok ⟨.window ⟨0x1000⟩, ⟨0, 0, 600, 400⟩, ⟨0, 0, 600, 400⟩, some doubled⟩ := by
  intro doubled upper lower topology bounds display
  have hdisjoint : topology.IsDisjoint := by
    refine List.pairwise_cons.mpr ⟨fun n hn p hp hq ↦ ?_, List.pairwise_singleton _ _⟩
    obtain rfl := List.mem_singleton.mp hn
    simp only [Rect.mem_iff, upper, lower] at hp hq
    omega
  have hlower : topology.get? 1 = some lower := rfl
  have hin : lower.rect.Encloses bounds := by decide
  obtain ⟨hcenter, -, hmonitor, hscale, hresolve⟩ :=
    window_takes_scale_of_its_monitor hdisjoint hlower (by decide) (by decide) hin
  have hresolved := hresolve _ (Host.assemble .inMemory .manual) ⟨0x1000⟩ ⟨0, 0, 300, 200⟩
    .wholeArea 32 ⟨display, .startingAt 0⟩ ⟨display, .startingAt 0⟩ rfl rfl
  exact ⟨by decide, hcenter, hmonitor, hscale, hresolved.trans (by decide)⟩

end Topology

end ScreenCapture

import ScreenCapture.Clock.Manual
import ScreenCapture.Display.InMemory
import ScreenCapture.Proofs.Action
import ScreenCapture.Proofs.BoundingBox
import ScreenCapture.Proofs.Scaling
import ScreenCapture.Proofs.Selection

namespace ScreenCapture

namespace Topology

variable {topology : Topology} {rect : Rect}

/-- A rectangle around the origin, in which not one pixel is lost, is mapped to one around the
origin, whichever monitors scale its edges. -/
theorem zero_mem_toPhysical {physical : Rect} (hp : topology.toPhysical rect = .ok physical)
    (hs : ∀ monitor ∈ topology.monitors, monitor.scale.Enlarges) (hz : (⟨0, 0⟩ : Point) ∈ rect) :
    (⟨0, 0⟩ : Point) ∈ physical := by
  have hmapping := topology.toPhysical_mapping rect
  rw [hp] at hmapping
  cases hmapping with
  | @mapped _ _ _ _ a b c d _ _ _ _ _ hc hd =>
    obtain ⟨⟨hleft, hright⟩, htop, hbottom⟩ := hz
    refine ⟨⟨?_, ?_⟩, ?_, ?_⟩
    · exact Scale.along_nonpos a.scale.physical_pos.1 a.scale.logical_pos.1 hleft
    · exact Scale.along_pos c.scale.logical_pos.1 (hs c (mem_monitors_of_get? hc)).1 hright
    · exact Scale.along_nonpos b.scale.physical_pos.2 b.scale.logical_pos.2 htop
    · exact Scale.along_pos d.scale.logical_pos.2 (hs d (mem_monitors_of_get? hd)).2 hbottom

section

variable (hr : ∀ m ∈ topology.monitors, m.rect.InRange)
  (hm : ∃ m ∈ topology.monitors, ¬ m.rect.IsEmpty)
include hr hm

theorem lastInRange_combined : topology.combined.LastInRange := by
  have hbounds := bounds_combined hm
  obtain ⟨c, hc, hcpixels, hright⟩ := exists_of_attains hbounds.right
  obtain ⟨d, hd, hdpixels, hbottom⟩ := exists_of_attains hbounds.bottom
  have hcrange := hr c hc
  have hdrange := hr d hd
  simp only [Rect.InRange, Rect.LastInRange, Coordinate.InRange] at hcrange hdrange ⊢
  omega

theorem exists_toPhysical_combined :
    ∃ area, topology.toPhysical topology.combined = .ok area := by
  have hbounds := bounds_combined hm
  obtain ⟨a, ha, hapixels, hleft⟩ := exists_of_attains hbounds.left
  obtain ⟨b, hb, hbpixels, htop⟩ := exists_of_attains hbounds.top
  obtain ⟨c, hc, hcpixels, hright⟩ := exists_of_attains hbounds.right
  obtain ⟨d, hd, hdpixels, hbottom⟩ := exists_of_attains hbounds.bottom
  obtain ⟨⟨i, j⟩, hfirst⟩ : ∃ axes, topology.locate? topology.combined.origin = some axes :=
    exists_locate? ⟨a, ha, by dsimp only [Rect.origin]; omega⟩
      ⟨b, hb, by dsimp only [Rect.origin]; omega⟩
  obtain ⟨⟨k, l⟩, hlast⟩ : ∃ axes,
      topology.locate? ⟨topology.combined.right - 1, topology.combined.bottom - 1⟩ = some axes :=
    exists_locate? ⟨c, hc, by dsimp only; omega⟩ ⟨d, hd, by dsimp only; omega⟩
  obtain ⟨_, _, _, _, -, -, -, -, hok⟩ :=
    toPhysical_of_locate? hfirst (lastInRange_combined hr hm) hlast
  exact ⟨_, hok⟩

end

end Topology

namespace Host

variable {ω : Type} {h : Host ω} {topology : Topology} {w : ω}

theorem captureArea_desktop {logical area : Rect} (hv : (h.virtualScreen w).1 = .ok logical)
    (hp : topology.toPhysical logical = .ok area) :
    (h.captureArea topology .desktop w).1 = .ok (area, none) := by
  rw [captureArea, Attempt.bind_apply, Attempt.embed_apply, hv]
  simp only [Except.mapError, hp]
  rfl

theorem resolveTarget_eq_map {handle : TargetHandle} {area : Rect} {scale : Option Scale}
    {request : CaptureRequest} {depth : Nat}
    (ha : (h.captureArea topology handle w).1 = .ok (area, scale)) :
    (h.resolveTarget topology handle request depth w).1 =
      ((request.select area depth).map fun rect ↦ ⟨handle, area, rect, scale⟩).mapError .error := by
  rw [resolveTarget, Attempt.bind_apply]
  rcases hc : h.captureArea topology handle w with ⟨answer, w'⟩
  rw [hc] at ha
  cases ha
  simp only [Attempt.bind_apply]
  cases request.select area depth <;> rfl

theorem resolveTarget_of_captureArea {handle : TargetHandle} {area rect : Rect}
    {scale : Option Scale} {request : CaptureRequest} {depth : Nat}
    (ha : (h.captureArea topology handle w).1 = .ok (area, scale))
    (hs : request.select area depth = .ok rect) :
    (h.resolveTarget topology handle request depth w).1 = .ok ⟨handle, area, rect, scale⟩ := by
  rw [resolveTarget_eq_map ha, hs]
  rfl

end Host

theorem CaptureRequest.select_of_isWholeArea {request : CaptureRequest} {area : Rect} {depth : Nat}
    (hw : request.IsWholeArea) (ha : ¬ area.IsEmpty) (hd : WholeBytes depth) :
    request.select area depth = .ok area :=
  select_eq_ok_iff.mpr ⟨clip_of_isWholeArea hw, .refl area, ha, hd⟩

/-- Where one monitor has pixels, the rectangle that bounds the monitors is mapped, wherever they
are. If it is around the origin and no monitor merges pixels, then so is its physical area, and a
request for all of it is granted. -/
theorem whole_desktop_is_mapped {ω : Type} (h : Host ω) (monitors : List Monitor)
    (hr : ∀ m ∈ monitors, m.rect.InRange) (hm : ∃ m ∈ monitors, ¬ m.rect.IsEmpty) :
    ∃ topology area, Topology.ofMonitors monitors = .ok topology ∧
      topology.toPhysical topology.combined = .ok area ∧
      (Coordinate.InRange (topology.combined.right - 1) ∧
        Coordinate.InRange (topology.combined.bottom - 1)) ∧
      (∀ w, (h.virtualScreen w).1 = .ok topology.combined →
        (h.captureArea topology .desktop w).1 = .ok (area, none)) ∧
      ((⟨0, 0⟩ : Point) ∈ topology.combined → (∀ m ∈ monitors, m.scale.Enlarges) →
        (⟨0, 0⟩ : Point) ∈ area ∧
        ∀ request depth w, request.IsWholeArea → WholeBytes depth →
          (h.virtualScreen w).1 = .ok topology.combined →
          (h.resolveTarget topology .desktop request depth w).1 =
            .ok ⟨.desktop, area, area, none⟩) := by
  let topology : Topology := ⟨monitors⟩
  have hnew : Topology.ofMonitors monitors = .ok topology := by
    obtain ⟨m, hmem, -⟩ := hm
    cases hmem <;> rfl
  obtain ⟨area, harea⟩ : ∃ area, topology.toPhysical topology.combined = .ok area :=
    Topology.exists_toPhysical_combined hr hm
  refine ⟨topology, area, hnew, harea, Topology.lastInRange_combined hr hm,
    fun w hv ↦ Host.captureArea_desktop hv harea, fun hz hs ↦ ?_⟩
  have hmem := Topology.zero_mem_toPhysical harea hs hz
  refine ⟨hmem, fun request depth w hw hd hv ↦ ?_⟩
  have hselect := CaptureRequest.select_of_isWholeArea hw (Rect.not_isEmpty_of_mem hmem) hd
  exact Host.resolveTarget_of_captureArea (Host.captureArea_desktop hv harea) hselect

theorem whole_desktop_is_mapped_beside_gap :
    let monitors : List Monitor := [⟨⟨5, 5, 1, 1⟩, .identity⟩,
      ⟨⟨-1280, -200, 0, 824⟩, ⟨1280, 1024⟩, ⟨2560, 2048⟩, by decide, by decide⟩,
      ⟨⟨0, 0, 1920, 768⟩, .identity⟩]
    let h := Host.assemble .inMemory .manual
    let area : Rect := ⟨-2560, -400, 1920, 1648⟩
    ∃ topology, Topology.ofMonitors monitors = .ok topology ∧
      topology.toPhysical topology.combined = .ok area ∧
      (Coordinate.InRange (topology.combined.right - 1) ∧
        Coordinate.InRange (topology.combined.bottom - 1)) ∧
      (h.resolveTarget topology .desktop .wholeArea 32 ⟨.withMonitors monitors, default⟩).1 =
        .ok ⟨.desktop, area, area, none⟩ := by
  intro monitors h area
  obtain ⟨topology, mapped, hnew, hmapped, hlast, -, horigin⟩ :=
    whole_desktop_is_mapped h monitors (by decide) (by decide)
  obtain rfl : ⟨monitors⟩ = topology := Except.ok.inj hnew
  obtain rfl : area = mapped := Except.ok.inj (Eq.trans (by rfl) hmapped)
  obtain ⟨-, hresolve⟩ := horigin (by decide) (by decide)
  exact ⟨_, hnew, hmapped, hlast, hresolve _ _ _ (by decide) (by decide) rfl⟩

end ScreenCapture

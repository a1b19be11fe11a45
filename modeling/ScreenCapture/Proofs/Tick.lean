import ScreenCapture.Proofs.BitmapFile
import ScreenCapture.Proofs.Pacing
import ScreenCapture.Proofs.Reading

namespace ScreenCapture

variable {ω : Type} {h : Host ω}

theorem CaptureError.isRetryable_asCapture (error : CaptureError) :
    error.asCapture.isRetryable = false := by
  cases error <;> rfl

namespace BitmapLayout

variable (layout : BitmapLayout)

theorem paletteSize_eq : layout.paletteSize = if layout.depth = 8 then 1024 else 0 := by
  obtain ⟨hzero, hwhole⟩ := layout.wholeBytes
  by_cases hd : layout.depth = 8
  · rw [if_pos hd, paletteSize, paletteEntries, hd]
    rfl
  · rw [if_neg hd, paletteSize, paletteEntries, Bitmap.paletteEntries, if_neg (by omega)]
    rfl

theorem paletteSize_eq_zero_iff : layout.paletteSize = 0 ↔ layout.depth ≠ 8 := by
  rw [paletteSize_eq]
  split <;> simp_all

end BitmapLayout

namespace Session

variable {session : Session}

def colours (h : Host ω) (session : Session) : Attempt ω ByteArray :=
  if session.layout.depth = 8 then do return (← h.readPalette session.layout.paletteSize).val
  else pure .empty

theorem colours_size : Answers (session.colours h) fun palette ↦
    palette.size = session.layout.paletteSize := by
  unfold colours
  split
  · exact .andThen (.any _) fun palette _ ↦ .succeed palette.property
  · next hd => exact .succeed (session.layout.paletteSize_eq_zero_iff.mpr hd).symm

theorem encode_eq : session.encode h = (do
    let palette ← session.colours h
    let pixels ← h.pixels
    session.layout.encode palette pixels) := by
  unfold encode colours
  by_cases hd : session.layout.depth = 8
  · rw [if_pos hd, if_neg (session.layout.paletteSize_eq_zero_iff.not_left.mpr hd)]
    funext w
    simp only [Attempt.bind_apply]
    rcases h.readPalette session.layout.paletteSize w with ⟨error | palette, w'⟩
    · rfl
    · rfl
  · rw [if_neg hd, if_pos (session.layout.paletteSize_eq_zero_iff.mpr hd)]

theorem encode_reporting (reported : Bool) :
    (session.reporting reported).encode h = session.encode h := rfl

section

variable {w w₁ : ω} (schedule : Schedule) (now : Int)

theorem tick_of_uncopied {error : CaptureError}
    (hb : h.blit session.target.captureRect (h.timer w).2 = (.error error, w₁)) :
    (session.tick h schedule now w).1.1 = .error (.error error.asCapture) := by
  rcases ht : h.timer w with ⟨started, w₀⟩
  rw [ht] at hb
  obtain ⟨w₂, hblit⟩ : ∃ w₂, session.blit h w₀ = (.error error.asCapture, w₂) := by
    rw [blit, Attempt.tryCatch_apply, hb]
    exact ⟨_, rfl⟩
  unfold tick
  simp only [bind, StateT.bind, ExceptT.run, ht, hblit]
  rfl

variable {w₂ : ω} (hb : h.blit session.target.captureRect (h.timer w).2 = (.ok (), w₁))
include hb

theorem tick_of_undrawn (hd : session.drawPointer h w₁ = (none, w₂)) :
    (session.tick h schedule now w).1.1 = .error .overflow := by
  rcases ht : h.timer w with ⟨started, w₀⟩
  rw [ht] at hb
  have hblit : session.blit h w₀ = (.ok (), w₁) := by
    rw [blit, Attempt.tryCatch_apply, hb]
  unfold tick
  simp only [bind, StateT.bind, ExceptT.run, ht, hblit, hd]
  rfl

theorem tick_of_drawn {drawn : Session} (hd : session.drawPointer h w₁ = (some drawn, w₂)) :
    (session.tick h schedule now w).1.1.map Frame.data = (session.encode h w₂).1.mapError .error := by
  rcases ht : h.timer w with ⟨started, w₀⟩
  rw [ht] at hb
  have hblit : session.blit h w₀ = (.ok (), w₁) := by
    rw [blit, Attempt.tryCatch_apply, hb]
  -- the session that the pointer leaves encodes as the one before it, as their layouts are the same
  obtain ⟨reported, rfl⟩ := drawPointer_gives w₁ drawn (by rw [hd]; rfl)
  unfold tick
  simp only [bind, StateT.bind, ExceptT.run, ht, hblit, hd, encode_reporting]
  rcases session.encode h w₂ with ⟨error | data, w₃⟩
  · rfl
  · rfl

end

/-- What a tick whose copy is made in the world `w` gets: a failure of one of its calls, or the
colour table and the pixels. The pointer is drawn in between; it cannot fail, only break off. -/
inductive Shot (h : Host ω) (session : Session) (w : ω) :
    Except (Failure CaptureError) (ByteArray × ByteArray) → Prop
  | uncopied {error : CaptureError} {w₁ : ω} :
    h.blit session.target.captureRect w = (.error error, w₁) →
      Shot h session w (.error (.error error.asCapture))
  | undrawn {w₁ w₂ : ω} : h.blit session.target.captureRect w = (.ok (), w₁) →
      session.drawPointer h w₁ = (none, w₂) → Shot h session w (.error .overflow)
  | uncoloured {drawn : Session} {error : CaptureError} {w₁ w₂ w₃ : ω} :
    h.blit session.target.captureRect w = (.ok (), w₁) →
      session.drawPointer h w₁ = (some drawn, w₂) → session.colours h w₂ = (.error error, w₃) →
      Shot h session w (.error (.error error))
  | unread {drawn : Session} {error : CaptureError} {palette : ByteArray} {w₁ w₂ w₃ w₄ : ω} :
    h.blit session.target.captureRect w = (.ok (), w₁) →
      session.drawPointer h w₁ = (some drawn, w₂) → session.colours h w₂ = (.ok palette, w₃) →
      h.pixels w₃ = (.error error, w₄) → Shot h session w (.error (.error error))
  | taken {drawn : Session} {palette pixels : ByteArray} {w₁ w₂ w₃ w₄ : ω} :
    h.blit session.target.captureRect w = (.ok (), w₁) →
      session.drawPointer h w₁ = (some drawn, w₂) → session.colours h w₂ = (.ok palette, w₃) →
      h.pixels w₃ = (.ok pixels, w₄) → Shot h session w (.ok (palette, pixels))

variable (h session) in
theorem exists_shot (w : ω) : ∃ result, session.Shot h w result := by
  rcases hb : h.blit session.target.captureRect w with ⟨error | _, w₁⟩
  · exact ⟨_, .uncopied hb⟩
  · rcases hd : session.drawPointer h w₁ with ⟨_ | drawn, w₂⟩
    · exact ⟨_, .undrawn hb hd⟩
    · rcases hc : session.colours h w₂ with ⟨error | palette, w₃⟩
      · exact ⟨_, .uncoloured hb hd hc⟩
      · rcases hp : h.pixels w₃ with ⟨error | pixels, w₄⟩
        · exact ⟨_, .unread hb hd hc hp⟩
        · exact ⟨_, .taken hb hd hc hp⟩

namespace Shot

variable {w : ω} {palette pixels : ByteArray}

theorem size_palette (hs : session.Shot h w (.ok (palette, pixels))) :
    palette.size = session.layout.paletteSize := by
  cases hs with
  | taken hb hd hc hp => exact colours_size _ _ (by rw [hc])

theorem encode_eq (hs : session.Shot h w (.ok (palette, pixels))) :
    session.layout.encode palette pixels = if pixels.size = session.layout.frameSize then
      .ok (session.layout.headers ++ palette ++ pixels)
    else .error (session.layout.pixelFault pixels.size) := by
  split
  · next hx => exact BitmapLayout.encode_of_sizes hs.size_palette hx
  · next hx => exact BitmapLayout.encode_of_pixels_ne hs.size_palette hx

end Shot

/-- The frame of a tick, or its failure, is that of encoding what it got. -/
theorem tick_data {w : ω} {result : Except (Failure CaptureError) (ByteArray × ByteArray)}
    (hs : session.Shot h (h.timer w).2 result) (schedule : Schedule) (now : Int) :
    (session.tick h schedule now w).1.1.map Frame.data =
      result.bind fun (palette, pixels) ↦
        (session.layout.encode palette pixels).mapError .error := by
  cases hs with
  | uncopied hb =>
    rw [tick_of_uncopied schedule now hb]
    rfl
  | undrawn hb hd =>
    rw [tick_of_undrawn schedule now hb hd]
    rfl
  | uncoloured hb hd hc =>
    rw [tick_of_drawn schedule now hb hd, encode_eq, Attempt.bind_apply, hc]
    rfl
  | unread hb hd hc hp =>
    rw [tick_of_drawn schedule now hb hd, encode_eq, Attempt.bind_apply, hc]
    simp only [Attempt.bind_apply, hp]
    rfl
  | taken hb hd hc hp =>
    rw [tick_of_drawn schedule now hb hd, encode_eq, Attempt.bind_apply, hc]
    simp only [Attempt.bind_apply, hp]
    rfl

/-- The wait of a read is over when the clock tells `now`, and its tick gets `result`. -/
def Obtains (h : Host ω) (session : Session) (patience : Nat) (w : ω) (now : Int)
    (result : Except (Failure CaptureError) (ByteArray × ByteArray)) : Prop :=
  ∃ w', await h session.pacer session.options.nonblocking patience (session.pump h w).2 =
      (.due (session.pacer.schedule now) now, w') ∧ session.Shot h (h.timer w').2 result

namespace Obtains

variable {patience : Nat} {w : ω} {now : Int} {palette pixels : ByteArray}

theorem due_le {result : Except (Failure CaptureError) (ByteArray × ByteArray)}
    (ho : session.Obtains h patience w now result) : session.pacer.due ≤ now := by
  obtain ⟨w', hw, -⟩ := ho
  exact (session.pacer.isDue_iff now).mp (schedule_of_await hw).2

theorem size_palette (ho : session.Obtains h patience w now (.ok (palette, pixels))) :
    palette.size = session.layout.paletteSize := by
  obtain ⟨w', -, hs⟩ := ho
  exact hs.size_palette

variable (hopen : ¬ session.IsClosed)
include hopen

theorem reading_of_error {failure : Failure CaptureError}
    (ho : session.Obtains h patience w now (.error failure)) :
    (session.read h patience w).1.1 = .ofFailure failure := by
  obtain ⟨w', hw, hs⟩ := ho
  have hdata := tick_data hs (session.pacer.schedule now) now
  rw [read_of_due hopen hw]
  rcases ht : session.tick h (session.pacer.schedule now) now w' with ⟨⟨_ | frame, after⟩, w''⟩
  · rw [ht] at hdata
    cases hdata
    rfl
  · rw [ht] at hdata
    cases hdata

theorem reading_of_ok (ho : session.Obtains h patience w now (.ok (palette, pixels))) :
    if pixels.size = session.layout.frameSize then
      ∃ frame, (session.read h patience w).1.1 = .frame frame ∧ frame.pts = now ∧
        frame.layout = session.layout ∧ frame.data = session.layout.headers ++ palette ++ pixels
    else (session.read h patience w).1.1 = .failed (session.layout.pixelFault pixels.size) := by
  have hdue := (session.pacer.isDue_iff now).mpr ho.due_le
  obtain ⟨w', hw, hs⟩ := ho
  have hdata : (session.tick h (session.pacer.schedule now) now w').1.1.map Frame.data =
      (session.layout.encode palette pixels).mapError .error := tick_data hs _ now
  have hgives := session.tick_gives (h := h) now hdue w'
  rw [hs.encode_eq] at hdata
  rw [read_of_due hopen hw]
  rcases ht : session.tick h (session.pacer.schedule now) now w' with ⟨⟨error | frame, after⟩, w''⟩
  · rw [ht] at hdata
    split at hdata
    · cases hdata
    · next hx =>
      cases hdata
      rw [if_neg hx]
      rfl
  · rw [ht] at hdata hgives
    split at hdata
    · next hx =>
      obtain ⟨hpts, hlayout, -⟩ := hgives
      rw [if_pos hx]
      exact ⟨frame, rfl, hpts, hlayout, Except.ok.inj hdata⟩
    · cases hdata

end Obtains

theorem Obtains.of_due {patience : Nat} {w w' : ω} {schedule : Schedule} {now : Int}
    (hw : await h session.pacer session.options.nonblocking patience (session.pump h w).2 =
      (.due schedule now, w')) : ∃ result, session.Obtains h patience w now result := by
  obtain ⟨rfl, -⟩ := schedule_of_await hw
  obtain ⟨result, hs⟩ := session.exists_shot h (h.timer w').2
  exact ⟨result, w', hw, hs⟩

/-- How a read of an open session can end, and why. -/
inductive Ending (h : Host ω) (session : Session) (patience : Nat) (w : ω) : Reading → Prop
  | refused {w' : ω} :
    await h session.pacer session.options.nonblocking patience (session.pump h w).2 =
      (.refused, w') → Ending h session patience w (.failed .wouldBlock)
  | unfinished {w' : ω} :
    await h session.pacer session.options.nonblocking patience (session.pump h w).2 =
      (.unfinished, w') → Ending h session patience w .unfinished
  | failed {now : Int} {error : CaptureError} :
    session.Obtains h patience w now (.error (.error error)) →
      Ending h session patience w (.failed error)
  | overflow {now : Int} : session.Obtains h patience w now (.error .overflow) →
      Ending h session patience w .overflow
  | misfit {now : Int} {palette pixels : ByteArray} :
    session.Obtains h patience w now (.ok (palette, pixels)) →
      pixels.size ≠ session.layout.frameSize →
      Ending h session patience w (.failed (session.layout.pixelFault pixels.size))
  | frame {frame : Frame} {palette pixels : ByteArray} :
    session.Obtains h patience w frame.pts (.ok (palette, pixels)) →
      pixels.size = session.layout.frameSize → frame.layout = session.layout →
      frame.data = session.layout.headers ++ palette ++ pixels →
      Ending h session patience w (.frame frame)

theorem read_ending (hopen : ¬ session.IsClosed) (patience : Nat) (w : ω) :
    session.Ending h patience w (session.read h patience w).1.1 := by
  rcases hw : await h session.pacer session.options.nonblocking patience (session.pump h w).2
    with ⟨waiting, w'⟩
  cases waiting with
  | refused =>
    rw [read_of_refused hopen hw]
    exact .refused hw
  | unfinished =>
    rw [read_of_unfinished hopen hw]
    exact .unfinished hw
  | due schedule now =>
    obtain ⟨result, ho⟩ := Obtains.of_due hw
    rcases result with (error | _) | ⟨palette, pixels⟩
    · rw [ho.reading_of_error hopen]
      exact .failed ho
    · rw [ho.reading_of_error hopen]
      exact .overflow ho
    · have hok := ho.reading_of_ok hopen
      split at hok
      · next hsize =>
        obtain ⟨frame, hread, rfl, hlayout, hdata⟩ := hok
        rw [hread]
        exact .frame ho hsize hlayout hdata
      · next hsize =>
        rw [hok]
        exact .misfit ho hsize

end Session

end ScreenCapture

import ScreenCapture.Proofs.CaptureSize
import ScreenCapture.Proofs.OptionFields
import ScreenCapture.Proofs.TextParts

namespace ScreenCapture

open Text Numeral

namespace VideoSize

variable {size : VideoSize} {t : List Char} {w h : Nat}

/-- The text is a name of the size, whichever of its letters are capitals. -/
def Names (t : List Char) (w h : Nat) : Prop :=
  ∃ name, (name, w, h) ∈ names ∧ t.map Char.toLower = name.toList

/-- The text is a numeral on either side of its first letter x. -/
inductive Measures : List Char → Nat → Nat → Prop
  | mk {front back : List Char} {mark : Char} {w h : Nat} : mark = 'x' ∨ mark = 'X' →
    (∀ c ∈ front, c ≠ 'x' ∧ c ≠ 'X') → Unsigned front w → Unsigned back h →
    Measures (front ++ mark :: back) w h

theorem named?_eq_some_iff : named? t = some (w, h) ↔ Names t w h := by
  have hname (name : String) :
      String.ofList (lower t) = name ↔ t.map Char.toLower = name.toList := by
    rw [lower, ← String.toList_inj, String.toList_ofList]
  rw [named?, lookup_eq_some_iff_mem (by decide)]
  constructor
  · intro hmem
    exact ⟨_, hmem, (hname _).mp rfl⟩
  · rintro ⟨name, hmem, heq⟩
    rwa [(hname name).mpr heq]

theorem Names.bounds (hn : Names t w h) :
    (0 < w ∧ 0 < h) ∧ w < 0x100000000 ∧ h < 0x100000000 := by
  obtain ⟨name, hmem, -⟩ := hn
  have hall : names.all (fun entry ↦ decide ((0 < entry.2.1 ∧ 0 < entry.2.2) ∧
      entry.2.1 < 0x100000000 ∧ entry.2.2 < 0x100000000)) = true := by decide
  exact of_decide_eq_true (List.all_eq_true.mp hall _ hmem)

theorem Measures.mem_lower (hm : Measures t w h) {c : Char} (hc : c ∈ t.map Char.toLower) :
    c.isDigit = true ∨ c ∈ ['+', 'x'] := by
  have hnumeral {s : List Char} {n : Nat} (hu : Unsigned s n) {d : Char} (hd : d ∈ s) :
      d.toLower.isDigit = true ∨ d.toLower ∈ ['+', 'x'] := by
    rcases hu.mem hd with hdigit | rfl
    · exact .inl (by rwa [toLower_eq_self (isUpper_of_isDigit hdigit)])
    · exact .inr (by decide)
  obtain ⟨d, hd, rfl⟩ := List.mem_map.mp hc
  cases hm with
  | mk hmark _ hw hh =>
    rcases List.mem_append.mp hd with hd | hd
    · exact hnumeral hw hd
    · rcases List.mem_cons.mp hd with rfl | hd
      · exact .inr (by rcases hmark with rfl | rfl <;> decide)
      · exact hnumeral hh hd

/-- Every name has a letter that two numerals around an x have not. -/
theorem Measures.not_names (hm : Measures t w h) (w' h' : Nat) : ¬ Names t w' h' := by
  rintro ⟨name, hmem, heq⟩
  have hnames : names.all (fun entry ↦ entry.1.toList.any fun c ↦
      !c.isDigit && decide (c ∉ ['+', 'x'])) = true := by decide
  obtain ⟨c, hc, hother⟩ := List.any_eq_true.mp (List.all_eq_true.mp hnames _ hmem)
  rw [Bool.and_eq_true, Bool.not_eq_true', decide_eq_true_eq] at hother
  rcases hm.mem_lower (heq ▸ hc) with hdigit | hmark
  · exact Bool.false_ne_true (hother.1.symm.trans hdigit)
  · exact hother.2 hmark

theorem ofDimensions?_eq_some_iff :
    ofDimensions? w h = some size ↔ size.width = w ∧ size.height = h := by
  constructor
  · intro hsize
    rw [ofDimensions?] at hsize
    split at hsize
    · cases hsize
      exact ⟨rfl, rfl⟩
    · cases hsize
  · rintro ⟨rfl, rfl⟩
    exact ofDimensions?_self size

theorem word?_eq_some_iff {n : Nat} : word? t = some n ↔ Unsigned t n ∧ n < 0x100000000 := by
  rw [word?, toOption_readNat_eq_some_iff, Nat.lt_succ_iff]

theorem isMark_iff {c : Char} :
    (decide (c = 'x') || decide (c = 'X')) = true ↔ c = 'x' ∨ c = 'X' := by
  simp

theorem isMark_eq_false_iff {c : Char} :
    (decide (c = 'x') || decide (c = 'X')) = false ↔ c ≠ 'x' ∧ c ≠ 'X' := by
  simp

theorem Names.read?_eq (hn : Names t size.width size.height) : read? t = some size := by
  simp only [read?, named?_eq_some_iff.mpr hn]
  exact ofDimensions?_self size

theorem Measures.read?_eq (hm : Measures t size.width size.height) : read? t = some size := by
  have hnamed : named? t = none := by
    rw [Option.eq_none_iff_forall_ne_some]
    exact fun entry hentry ↦ hm.not_names _ _ (named?_eq_some_iff.mp hentry)
  obtain ⟨w, hw⟩ : ∃ w, w = size.width := ⟨_, rfl⟩
  obtain ⟨h, hh⟩ : ∃ h, h = size.height := ⟨_, rfl⟩
  rw [← hw, ← hh] at hm
  cases hm with
  | @mk front back mark _ _ hmark hfront hfirst hsecond =>
    have hcut : cut? (fun c ↦ c = 'x' || c = 'X') (front ++ mark :: back) = some (front, back) :=
      cut?_append (fun c hc ↦ isMark_eq_false_iff.mpr (hfront c hc)) (isMark_iff.mpr hmark) back
    simp only [read?, hnamed, hcut, word?_eq_some_iff.mpr ⟨hfirst, hw ▸ size.width_lt⟩,
      word?_eq_some_iff.mpr ⟨hsecond, hh ▸ size.height_lt⟩]
    exact ofDimensions?_eq_some_iff.mpr ⟨hw.symm, hh.symm⟩

theorem read?_eq_some_iff : read? t = some size ↔
    Names t size.width size.height ∨ Measures t size.width size.height := by
  constructor
  · intro hread
    unfold read? at hread
    split at hread
    · next w h hnamed =>
      obtain ⟨rfl, rfl⟩ := ofDimensions?_eq_some_iff.mp hread
      exact .inl (named?_eq_some_iff.mp hnamed)
    · split at hread
      · next front back hcut =>
        obtain ⟨mark, rfl, hmark, hfront⟩ := cut?_eq_some_iff.mp hcut
        obtain ⟨w, hw, hread⟩ := Option.bind_eq_some_iff.mp hread
        obtain ⟨h, hh, hread⟩ := Option.bind_eq_some_iff.mp hread
        obtain ⟨rfl, rfl⟩ := ofDimensions?_eq_some_iff.mp hread
        exact .inr (.mk (isMark_iff.mp hmark) (fun c hc ↦ isMark_eq_false_iff.mp (hfront c hc))
          (word?_eq_some_iff.mp hw).1 (word?_eq_some_iff.mp hh).1)
      · cases hread
  · rintro (hn | hm)
    · exact hn.read?_eq
    · exact hm.read?_eq

theorem parse_eq_ok_iff {text : String} : parse text = .ok size ↔
    ∃ t, Trimmed text.toList t ∧
      (Names t size.width size.height ∨ Measures t size.width size.height) := by
  have hread : parse text = .ok size ↔ read? (trim text.toList) = some size := by
    rw [parse]
    cases read? (trim text.toList) with
    | none => simp
    | some read =>
      exact ⟨fun heq ↦ congrArg some (Except.ok.inj heq),
        fun heq ↦ congrArg Except.ok (Option.some.inj heq)⟩
  rw [hread, read?_eq_some_iff, exists_trimmed_iff]

theorem exists_parse_iff {text : String} :
    (∃ size, parse text = .ok size ∧ size.width = w ∧ size.height = h) ↔
      ∃ t, Trimmed text.toList t ∧
        (Names t w h ∨ Measures t w h ∧ (0 < w ∧ 0 < h) ∧ w < 0x100000000 ∧ h < 0x100000000) := by
  constructor
  · rintro ⟨size, hparse, rfl, rfl⟩
    obtain ⟨t, ht, hn | hm⟩ := parse_eq_ok_iff.mp hparse
    · exact ⟨t, ht, .inl hn⟩
    · exact ⟨t, ht, .inr ⟨hm, ⟨size.width_pos, size.height_pos⟩, size.width_lt, size.height_lt⟩⟩
  · rintro ⟨t, ht, hforms⟩
    have hbounds : (0 < w ∧ 0 < h) ∧ w < 0x100000000 ∧ h < 0x100000000 := by
      rcases hforms with hn | hm
      · exact hn.bounds
      · exact hm.2
    exact ⟨⟨w, h, hbounds.1.1, hbounds.1.2, hbounds.2.1, hbounds.2.2⟩,
      parse_eq_ok_iff.mpr ⟨t, ht, hforms.imp_right And.left⟩, rfl, rfl⟩

end VideoSize

namespace CaptureOptions

variable {options options' : CaptureOptions}

/-- The rectangle that is asked for has this size, and it is not a whole area. -/
structure AsksFor (options : CaptureOptions) (size : VideoSize) : Prop where
  width_eq : options.request.width = size.width
  height_eq : options.request.height = size.height
  not_isWholeArea : ¬ options.request.IsWholeArea

theorem asksFor_of_videoSize {size : VideoSize} (h : options.videoSize = some size.sides) :
    options.AsksFor size := by
  have hwidth : options.request.width = size.width := by
    rw [request, h]
    exact size.width_sides
  have hheight : options.request.height = size.height := by
    rw [request, h]
    exact size.height_sides
  refine ⟨hwidth, hheight, ?_⟩
  rw [CaptureRequest.IsWholeArea, hwidth, hheight]
  exact not_or.mpr ⟨Nat.ne_of_gt size.width_pos, Nat.ne_of_gt size.height_pos⟩

theorem asksFor_of_set {text : String} (h : options.set "video_size" text = .ok options') :
    ∃ size, VideoSize.parse text = .ok size ∧ options'.AsksFor size := by
  obtain ⟨setting, hsetting, hs⟩ := exists_of_bind_eq_ok h
  obtain ⟨size, hsize, heq⟩ := exists_of_bind_eq_ok hsetting
  cases heq
  cases hs
  exact ⟨size, hsize, asksFor_of_videoSize rfl⟩

theorem asksFor_of_ofValue {v value : Json.Value} (h : ofValue v = .ok options)
    (hv : (.videoSize, some value) ∈ given v) :
    value = .null ∧ options.request.IsWholeArea ∨
      ∃ text size, value = .string text ∧ VideoSize.parse text = .ok size ∧ options.AsksFor size := by
  obtain ⟨read, hread, heq⟩ := exists_of_bind_eq_ok (has_of_ofValue h hv)
  have hsides : options.videoSize = read.map VideoSize.sides :=
    (Setting.videoSize.inj (Except.ok.inj heq)).symm
  cases read with
  | none =>
    refine .inl ⟨?_, .inl (by rw [request, hsides]; rfl)⟩
    cases value with
    | null => rfl
    | _ =>
      obtain ⟨_, -, hnone⟩ := exists_of_map_eq_ok hread
      cases hnone
  | some size =>
    obtain ⟨text, hvalue, hparse⟩ := Json.Value.exists_parse_of_toParsed (Json.Value.of_toOption hread)
    exact .inr ⟨text, size, hvalue, hparse, asksFor_of_videoSize hsides⟩

end CaptureOptions

namespace VideoSize

theorem exists_new {w h : UInt32} (hw : 0 < w) (hh : 0 < h) :
    ∃ size, new w h = .ok size ∧ size.width = w.toNat ∧ size.height = h.toNat := by
  have hbounds : (0 < w.toNat ∧ 0 < h.toNat) ∧ w.toNat < 0x100000000 ∧ h.toNat < 0x100000000 :=
    ⟨⟨hw, hh⟩, w.toNat_lt, h.toNat_lt⟩
  rw [new, ofDimensions?, dif_pos hbounds]
  exact ⟨_, rfl, rfl, rfl⟩

/-- Exactly the names and the pairs of positive numerals around a letter x are read as sizes, and
no such pair is a name. A size is read back from the text that it is written as. However a size
comes into the options, it is asked for as it was read and never taken for a whole area. -/
theorem sizes_are_read_and_asked_for :
    (∀ text w h, (∃ size, parse text = .ok size ∧ size.width = w ∧ size.height = h) ↔
      ∃ t, Trimmed text.toList t ∧
        (Names t w h ∨ Measures t w h ∧ (0 < w ∧ 0 < h) ∧ w < 0x100000000 ∧ h < 0x100000000)) ∧
    (∀ t w h, Measures t w h → ∀ w' h', ¬ Names t w' h') ∧
    (∀ w h : UInt32, 0 < w → 0 < h → ∃ size, new w h = .ok size ∧
      (size.width = w.toNat ∧ size.height = h.toNat) ∧ parse (toString size) = .ok size) ∧
    (∀ text size (options : CaptureOptions), parse text = .ok size →
      { options with videoSize := some size.sides }.AsksFor size) ∧
    (∀ (options options' : CaptureOptions) text, options.set "video_size" text = .ok options' →
      ∃ size, parse text = .ok size ∧ options'.AsksFor size) ∧
    (∀ v value options, CaptureOptions.ofValue v = .ok options →
      (.videoSize, some value) ∈ CaptureOptions.given v →
      value = .null ∧ options.request.IsWholeArea ∨
        ∃ text size, value = .string text ∧ parse text = .ok size ∧ options.AsksFor size) ∧
    ∀ text options sides, CaptureOptions.parse text = .ok options →
      options.videoSize = some sides →
        ∃ inner size, parse inner = .ok size ∧ size.sides = sides ∧ options.AsksFor size := by
  refine ⟨fun _ _ _ ↦ exists_parse_iff, fun _ _ _ ↦ Measures.not_names, fun w h hw hh ↦ ?_,
    fun _ _ _ _ ↦ CaptureOptions.asksFor_of_videoSize rfl,
    fun _ _ _ ↦ CaptureOptions.asksFor_of_set, fun _ _ _ ↦ CaptureOptions.asksFor_of_ofValue,
    fun _ _ _ hparse hsize ↦ ?_⟩
  · obtain ⟨size, hnew, hdimensions⟩ := exists_new hw hh
    exact ⟨size, hnew, hdimensions, size.parse_toString⟩
  · obtain ⟨inner, size, hinner, rfl⟩ := (CaptureOptions.areRead_of_parse hparse).videoSize _ hsize
    exact ⟨inner, size, hinner, rfl, CaptureOptions.asksFor_of_videoSize hsize⟩

theorem sizes_are_read_and_asked_for_of_capital :
    Measures "+640X0480".toList 640 480 ∧
    ∃ options, CaptureOptions.standard.set "video_size" " +640X0480" = .ok options ∧
      ∃ size, parse " +640X0480" = .ok size ∧ size.width = 640 ∧ options.AsksFor size := by
  obtain ⟨hread, -, -, -, hset, -, -⟩ := sizes_are_read_and_asked_for
  have ht : Trimmed " +640X0480".toList "+640X0480".toList := trim_eq_iff.mp (by decide)
  have hfirst : Unsigned "+640".toList 640 := .plus ⟨by decide, List.all_eq_true.mp rfl, by decide⟩
  have hsecond : Unsigned "0480".toList 480 := .bare ⟨by decide, List.all_eq_true.mp rfl, by decide⟩
  have hm : Measures "+640X0480".toList 640 480 := .mk (.inr rfl) (by simp) hfirst hsecond
  obtain ⟨size, hparse, hwidth, -⟩ := (hread _ 640 480).mpr
    ⟨_, ht, .inr ⟨hm, by decide, by decide, by decide⟩⟩
  have hoptions : CaptureOptions.standard.set "video_size" " +640X0480" =
      .ok (CaptureOptions.standard.apply (.videoSize (some size.sides))) := by
    change ((do return Setting.videoSize (some (← parse " +640X0480").sides) : Result Setting) >>=
      fun setting ↦ .ok (CaptureOptions.standard.apply setting)) = _
    rw [hparse]
    rfl
  obtain ⟨size', hparse', hasks⟩ := hset _ _ _ hoptions
  obtain rfl : size = size' := Except.ok.inj (hparse.symm.trans hparse')
  exact ⟨hm, _, hoptions, size, hparse, hwidth, hasks⟩

end VideoSize

end ScreenCapture

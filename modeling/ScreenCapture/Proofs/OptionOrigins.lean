import ScreenCapture.Options.Document
import ScreenCapture.Options.Value

namespace ScreenCapture

open Json

/-- A rate or a size in the setting was read from a text. -/
def Setting.IsRead : Setting → Prop
  | frameRate rate => ∃ text, FrameRate.parse text = .ok rate
  | videoSize (some sides) => ∃ text size, VideoSize.parse text = .ok size ∧ size.sides = sides
  | _ => True

structure CaptureOptions.AreRead (options : CaptureOptions) : Prop where
  frameRate : options.frameRate = .ntsc ∨ ∃ text, FrameRate.parse text = .ok options.frameRate
  videoSize : ∀ sides, options.videoSize = some sides →
    ∃ text size, VideoSize.parse text = .ok size ∧ size.sides = sides

namespace CaptureOptions

variable {options options' : CaptureOptions}

theorem standard_areRead : standard.AreRead := ⟨.inl rfl, nofun⟩

theorem AreRead.apply (ho : options.AreRead) {setting : Setting} (hs : setting.IsRead) :
    (options.apply setting).AreRead := by
  cases setting with
  | drawMouse | showRegion | offsetX | offsetY | nonblocking => exact ⟨ho.frameRate, ho.videoSize⟩
  | frameRate rate => exact ⟨.inr hs, ho.videoSize⟩
  | videoSize value =>
    refine ⟨ho.frameRate, fun sides he ↦ ?_⟩
    obtain rfl : value = some sides := he
    exact hs

end CaptureOptions

section

variable {ε α β : Type} {r : Except ε α} {b : β}

theorem exists_of_bind_eq_ok {next : α → Except ε β} (h : r >>= next = .ok b) :
    ∃ a, r = .ok a ∧ next a = .ok b := by
  cases r with
  | error _ => cases h
  | ok a => exact ⟨a, rfl, h⟩

theorem exists_of_map_eq_ok {f : α → β} (h : f <$> r = .ok b) : ∃ a, r = .ok a ∧ f a = b := by
  cases r with
  | error _ => cases h
  | ok a => exact ⟨a, rfl, Except.ok.inj h⟩

theorem foldlM_keeps {P : β → Prop} {f : β → α → Except ε β}
    (hf : ∀ b a b', P b → f b a = .ok b' → P b') {l : List α} {start stop : β} (hs : P start)
    (h : l.foldlM f start = .ok stop) : P stop := by
  induction l generalizing start with
  | nil =>
    cases h
    exact hs
  | cons a l ih =>
    rw [List.foldlM_cons] at h
    obtain ⟨next, hnext, hrest⟩ := exists_of_bind_eq_ok h
    exact ih (hf start a next hs hnext) hrest

end

namespace Json.Value

theorem exists_parse_of_toParsed {α : Type} {parse : String → Result α} {v : Value} {a : α}
    (h : v.toParsed parse = .ok a) : ∃ text, v = .string text ∧ parse text = .ok a := by
  cases v with
  | string text =>
    refine ⟨text, rfl, ?_⟩
    change (parse text).mapError Mismatch.refused = .ok a at h
    cases hparse : parse text with
    | error error =>
      rw [hparse] at h
      cases h
    | ok b =>
      rw [hparse] at h
      cases h
      rfl
  | _ => cases h

theorem of_toOption {α : Type} {decode : Value → Decoded α} {v : Value} {a : α}
    (h : v.toOption decode = .ok (some a)) : decode v = .ok a := by
  unfold toOption at h
  split at h
  · cases h
  · obtain ⟨_, hdecode, heq⟩ := exists_of_map_eq_ok h
    cases heq
    exact hdecode

end Json.Value

theorem OptionField.isRead_of_ofValue {field : OptionField} {v : Value} {setting : Setting}
    (h : field.ofValue v = .ok setting) : setting.IsRead := by
  cases field <;> obtain ⟨value, hvalue, hs⟩ := exists_of_bind_eq_ok h <;> cases hs
  case frameRate =>
    obtain ⟨text, -, hparse⟩ := Value.exists_parse_of_toParsed hvalue
    exact ⟨text, hparse⟩
  case videoSize =>
    cases value with
    | none => trivial
    | some size =>
      obtain ⟨text, -, hparse⟩ := Value.exists_parse_of_toParsed (Value.of_toOption hvalue)
      exact ⟨text, size, hparse, rfl⟩
  all_goals trivial

namespace CaptureOptions

theorem AreRead.of_map {options options' : CaptureOptions} (ho : options.AreRead)
    {field : OptionField} {v : Value}
    (h : options.apply <$> field.ofValue v = .ok options') : options'.AreRead := by
  obtain ⟨setting, hvalue, rfl⟩ := exists_of_map_eq_ok h
  exact ho.apply (OptionField.isRead_of_ofValue hvalue)

theorem areRead_of_ofValue {v : Value} {options : CaptureOptions} (h : ofValue v = .ok options) :
    options.AreRead := by
  unfold ofValue at h
  split at h
  · refine foldlM_keeps (fun options field options' ho hstep ↦ ?_) standard_areRead h
    split at hstep
    · exact ho.of_map hstep
    · cases hstep
      exact ho
  · obtain ⟨read, hread, hrest⟩ := exists_of_bind_eq_ok h
    have ho : read.AreRead := foldlM_keeps (fun _ _ _ ho hstep ↦ ho.of_map hstep) standard_areRead hread
    split at hrest
    · cases hrest
    · cases hrest
      exact ho
  · cases h

end CaptureOptions

/-- What the reader gives, whatever it is given to read, has the property `P`. -/
def Json.Yields {α : Type} (reader : Reader α) (P : α → Prop) : Prop :=
  ∀ s a t, reader s = .ok (a, t) → P a

namespace Json.Yields

variable {α β : Type} {P : α → Prop} {Q : β → Prop}

theorem any (reader : Reader α) : Yields reader fun _ ↦ True := fun _ _ _ _ ↦ trivial

theorem pure {a : α} (h : P a) : Yields (Pure.pure a) P := by
  intro s b t hb
  cases hb
  exact h

theorem throw (fault : Fault) : Yields (MonadExcept.throw fault : Reader α) P := nofun

theorem bind {reader : Reader α} {next : α → Reader β} (h : Yields reader P)
    (hn : ∀ a, P a → Yields (next a) Q) : Yields (reader >>= next) Q := by
  intro s b t hb
  obtain ⟨⟨a, t'⟩, hread, hrest⟩ := exists_of_bind_eq_ok hb
  exact hn a (h s a t' hread) t' b t hrest

theorem unwanted : Yields (Json.unwanted : Reader α) P := by
  have hlast (_ : Unit) (_ : True) : Yields (MonadExcept.throw .mismatch : Reader α) P := throw _
  have hword (w : List Char) : Yields (word w >>= fun _ ↦ MonadExcept.throw .mismatch) P :=
    (any _).bind hlast
  refine (any token).bind fun first _ ↦ ?_
  cases first with
  | none => exact throw _
  | some c =>
    dsimp only
    split
    · exact hword _
    split
    · exact hword _
    split
    · exact hword _
    split
    · exact (any _).bind fun _ _ ↦ (any _).bind hlast
    split
    · exact (any _).bind fun _ _ ↦ (any _).bind hlast
    split
    · exact (any _).bind hlast
    split
    · exact (throw _).bind hlast
    · exact hlast () trivial

theorem parsed {parse : String → Result α} :
    Yields (Json.parsed parse) fun a ↦ ∃ text, parse text = .ok a := by
  refine (any token).bind fun first _ ↦ ?_
  split
  · refine (any _).bind fun _ _ ↦ (any _).bind fun text _ ↦ ?_
    split
    · next a hparse => exact pure ⟨text, hparse⟩
    · exact throw _
  · exact unwanted

theorem orNull {reader : Reader α} (h : Yields reader P) :
    Yields (Json.orNull reader) fun value ↦ ∀ a, value = some a → P a := by
  refine (any token).bind fun first _ ↦ ?_
  split
  · exact (any _).bind fun _ _ ↦ pure nofun
  · refine h.bind fun a ha ↦ pure ?_
    rintro _ ⟨⟩
    exact ha

theorem of_run {reader : Reader α} (h : Yields reader P) {text : String} {a : α}
    (hrun : reader.run text = .ok a) : P a := by
  have hall : Yields (do
      let a ← reader
      if (← token).isSome then MonadExcept.throw Fault.malformed
      return a) P := by
    refine h.bind fun a ha ↦ (any token).bind fun next _ ↦ ?_
    split
    · exact (throw (P := fun _ ↦ True) _).bind fun _ _ ↦ pure ha
    · exact pure ha
  obtain ⟨b, hread, rfl⟩ := exists_of_map_eq_ok hrun
  exact hall _ b.1 b.2 hread

end Json.Yields

theorem OptionField.reader_yields (field : OptionField) : Yields field.reader Setting.IsRead := by
  cases field with
  | frameRate => exact Yields.parsed.bind fun _ hrate ↦ .pure hrate
  | videoSize =>
    refine Yields.parsed.orNull.bind fun value hvalue ↦ .pure ?_
    cases value with
    | none => trivial
    | some size =>
      obtain ⟨text, hparse⟩ := hvalue size rfl
      exact ⟨text, size, hparse, rfl⟩
  | drawMouse | showRegion | offsetX | offsetY | nonblocking =>
    exact (Yields.any _).bind fun _ _ ↦ .pure trivial

namespace CaptureOptions

theorem readElements_yields {options : CaptureOptions} (ho : options.AreRead) (first : Bool)
    (fields : List OptionField) : Yields (readElements first options fields) AreRead := by
  induction fields generalizing options first with
  | nil => exact .pure ho
  | cons field fields ih =>
    refine (Yields.any _).bind fun more _ ↦ ?_
    split
    · exact field.reader_yields.bind fun _ hs ↦ ih (ho.apply hs) false
    · exact .pure ho

theorem readMembers_yields {options : CaptureOptions} (ho : options.AreRead) (first : Bool)
    (given : List OptionField) (fuel : Nat) :
    Yields (readMembers first given options fuel) AreRead := by
  induction fuel generalizing options first given with
  | zero => exact .throw _
  | succ fuel ih =>
    refine (Yields.any _).bind fun more _ ↦ ?_
    split
    · refine (Yields.any _).bind fun name _ ↦ ?_
      split
      · next field _ =>
        have hrest (_ : Unit) (_ : True) : Yields (do
            colon
            readMembers false (field :: given) (options.apply (← field.reader)) fuel) AreRead :=
          (Yields.any _).bind fun _ _ ↦ field.reader_yields.bind fun _ hs ↦ ih (ho.apply hs) false _
        split
        · exact (Yields.throw _).bind hrest
        · exact hrest () trivial
      · exact (Yields.any _).bind fun _ _ ↦ (Yields.any _).bind fun _ _ ↦
          (Yields.any _).bind fun _ _ ↦ ih ho false given
    · exact .pure ho

theorem areRead_of_parse {text : String} {options : CaptureOptions} (h : parse text = .ok options) :
    options.AreRead := by
  have hreader : Yields reader AreRead := by
    refine (Yields.any token).bind fun first _ ↦ ?_
    split
    · exact (Yields.any _).bind fun _ _ ↦ (readElements_yields standard_areRead _ _).bind
        fun _ ho ↦ (Yields.any _).bind fun _ _ ↦ .pure ho
    · exact (Yields.any _).bind fun _ _ ↦ (Yields.any _).bind fun _ _ ↦
        (readMembers_yields standard_areRead _ _ _).bind
          fun _ ho ↦ (Yields.any _).bind fun _ _ ↦ .pure ho
    · exact .unwanted
  exact hreader.of_run h

end CaptureOptions

theorem FrameRate.exists_parse_of_parseJson {text : String} {rate : FrameRate}
    (h : parseJson text = .ok rate) : ∃ inner, parse inner = .ok rate :=
  Yields.parsed.of_run h

end ScreenCapture

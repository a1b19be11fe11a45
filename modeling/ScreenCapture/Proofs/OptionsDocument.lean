import Mathlib.Data.List.Forall2
import ScreenCapture.Proofs.PrintedValues

namespace ScreenCapture

open Json

namespace OptionField

def setting (options : CaptureOptions) : OptionField → Setting
  | drawMouse => .drawMouse options.drawMouse
  | showRegion => .showRegion options.showRegion
  | frameRate => .frameRate options.frameRate
  | videoSize => .videoSize options.videoSize
  | offsetX => .offsetX options.offsetX
  | offsetY => .offsetY options.offsetY
  | nonblocking => .nonblocking options.nonblocking

theorem ofName?_name (field : OptionField) : ofName? field.name = some field := by
  cases field <;> decide

/-- What the value of a member says about the option of its name. -/
inductive Stands : OptionField → Value → Setting → Prop
  | drawMouse (b : Bool) : Stands drawMouse (.bool b) (.drawMouse b)
  | showRegion (b : Bool) : Stands showRegion (.bool b) (.showRegion b)
  | frameRate {text : String} {rate : FrameRate} : FrameRate.parse text = .ok rate →
    Stands frameRate (.string text) (.frameRate rate)
  | wholeArea : Stands videoSize .null (.videoSize none)
  | videoSize {text : String} {size : VideoSize} : VideoSize.parse text = .ok size →
    Stands videoSize (.string text) (.videoSize (some size.sides))
  | offsetX (v : Int32) : Stands offsetX (.int v.toInt) (.offsetX v)
  | offsetY (v : Int32) : Stands offsetY (.int v.toInt) (.offsetY v)
  | nonblocking (b : Bool) : Stands nonblocking (.bool b) (.nonblocking b)

theorem stands_toValue {options : CaptureOptions}
    (hs : ∀ sides, options.videoSize = some sides → ∃ size : VideoSize, size.sides = sides)
    (field : OptionField) : field.Stands (field.toValue options) (field.setting options) := by
  cases field with
  | drawMouse => exact .drawMouse _
  | showRegion => exact .showRegion _
  | frameRate => exact .frameRate options.frameRate.parse_toString
  | videoSize =>
    rw [toValue, setting]
    cases hsides : options.videoSize with
    | none => exact .wholeArea
    | some sides =>
      obtain ⟨size, rfl⟩ := hs sides hsides
      exact .videoSize (size.toString_sides ▸ size.parse_toString)
  | offsetX => exact .offsetX _
  | offsetY => exact .offsetY _
  | nonblocking => exact .nonblocking _

end OptionField

namespace CaptureOptions

/-- A member of an object: one of the options with a value, or whatever has another name. -/
inductive Member : Option (OptionField × Value) → List Char → List Char → Prop
  | option {field : OptionField} {v : Value} {s s₁ s₂ s₃ t : List Char} :
    Spells field.name.toList s s₁ → Blanks s₁ (':' :: s₂) → Blanks s₂ s₃ → Notes v s₃ t →
    Member (some (field, v)) ('"' :: s) t
  | other {name : String} {s s₁ s₂ s₃ t : List Char} : Spells name.toList s s₁ →
    OptionField.ofName? name = none → Blanks s₁ (':' :: s₂) → Blanks s₂ s₃ →
    Derives .value s₃ t → Member none ('"' :: s) t

/-- The members of an object up to its bracket. -/
inductive Members : Bool → List (Option (OptionField × Value)) → List Char → List Char → Prop
  | done {first : Bool} {s t : List Char} : Blanks s ('}' :: t) → Members first [] s t
  | first {m : Option (OptionField × Value)} {ms : List (Option (OptionField × Value))}
    {s s₁ s₂ t : List Char} : Blanks s s₁ → Member m s₁ s₂ → Members false ms s₂ t →
    Members true (m :: ms) s t
  | next {m : Option (OptionField × Value)} {ms : List (Option (OptionField × Value))}
    {s s₁ s₂ s₃ t : List Char} : Blanks s (',' :: s₁) → Blanks s₁ s₂ → Member m s₂ s₃ →
    Members false ms s₃ t → Members false (m :: ms) s t

/-- A text that is an object with these members. -/
inductive Document (ms : List (Option (OptionField × Value))) : List Char → Prop
  | mk {s s₁ t : List Char} : Blanks s ('{' :: s₁) → Members true ms s₁ t → Blanks t [] →
    Document ms s

def Says (ms : List (Option (OptionField × Value))) (settings : List Setting) : Prop :=
  List.Forall₂ (fun entry setting ↦ entry.1.Stands entry.2 setting) (ms.filterMap id) settings

/-- A pair of functions that write options down as texts and read them. -/
structure Codec (ε : Type) where
  write : CaptureOptions → Except ε String
  read : String → Except ε CaptureOptions

/-- Options are written as an object with all of them. -/
def Codec.WritesRecords {ε : Type} (codec : Codec ε) : Prop := ∀ options : CaptureOptions,
  ∃ text, codec.write options = .ok text ∧
    Document (OptionField.all.map fun field ↦ some (field, field.toValue options)) text.toList

/-- An object that names no option twice is read as what its members say, after the usual
settings. -/
def Codec.ReadsRecords {ε : Type} (codec : Codec ε) : Prop :=
  ∀ (ms : List (Option (OptionField × Value))) (settings : List Setting) (text : String),
    Document ms text.toList → ((ms.filterMap id).map Prod.fst).Nodup → Says ms settings →
    codec.read text = .ok (settings.foldl apply standard)

variable (options : CaptureOptions)

/-- The options with the usual setting for each that is not given. -/
def only (given : List OptionField) : CaptureOptions where
  drawMouse := if .drawMouse ∈ given then options.drawMouse else standard.drawMouse
  showRegion := if .showRegion ∈ given then options.showRegion else standard.showRegion
  frameRate := if .frameRate ∈ given then options.frameRate else standard.frameRate
  videoSize := if .videoSize ∈ given then options.videoSize else standard.videoSize
  offsetX := if .offsetX ∈ given then options.offsetX else standard.offsetX
  offsetY := if .offsetY ∈ given then options.offsetY else standard.offsetY
  nonblocking := if .nonblocking ∈ given then options.nonblocking else standard.nonblocking

theorem only_nil : options.only [] = standard := rfl

theorem only_all : options.only OptionField.all = options := by
  simp [only, OptionField.all]

theorem only_congr {given given' : List OptionField} (h : ∀ field, field ∈ given ↔ field ∈ given') :
    options.only given = options.only given' := by
  simp only [only, h]

theorem only_apply (given : List OptionField) (field : OptionField) :
    (options.only given).apply (field.setting options) = options.only (field :: given) := by
  cases field <;> simp [only, apply, OptionField.setting]

theorem foldl_setting (fields given : List OptionField) :
    (fields.map (OptionField.setting options)).foldl apply (options.only given) =
      options.only (fields.reverse ++ given) := by
  induction fields generalizing given with
  | nil => rfl
  | cons field fields ih =>
    rw [List.map_cons, List.foldl_cons, only_apply, ih, List.reverse_cons, List.append_assoc]
    rfl

variable {options} {ε : Type} {codec : Codec ε}

theorem Codec.ReadsRecords.read_eq (hr : codec.ReadsRecords)
    (hs : ∀ sides, options.videoSize = some sides → ∃ size : VideoSize, size.sides = sides)
    (ms : List (Option OptionField)) {text : String}
    (hdocument : Document (ms.map (Option.map fun field ↦ (field, field.toValue options)))
      text.toList) (hnodup : (ms.filterMap id).Nodup) :
    codec.read text = .ok (options.only (ms.filterMap id)) := by
  have hentries : (ms.map (Option.map fun field ↦ (field, field.toValue options))).filterMap id =
      (ms.filterMap id).map fun field ↦ (field, field.toValue options) := by
    rw [List.filterMap_map, List.map_filterMap]
    rfl
  have hsays : Says (ms.map (Option.map fun field ↦ (field, field.toValue options)))
      ((ms.filterMap id).map (OptionField.setting options)) := by
    rw [Says, hentries, List.forall₂_map_left_iff, List.forall₂_map_right_iff, List.forall₂_same]
    exact fun field _ ↦ field.stands_toValue hs
  have hnames : ((ms.filterMap id).map fun field ↦ (field, field.toValue options)).map Prod.fst =
      ms.filterMap id := by
    rw [List.map_map]
    exact List.map_id _
  rw [hr _ _ text hdocument (by rwa [hentries, hnames]) hsays, ← options.only_nil, foldl_setting,
    List.append_nil, options.only_congr fun _ ↦ List.mem_reverse]

/-- Whatever writes options as objects and reads objects as options takes back what it has written.
A document that gives some of the options, each once, in any order, with any blanks and any members
of other names, stands for those and for the usual settings of the others. -/
theorem json_roundTrip {ε : Type} (codec : Codec ε) (hw : codec.WritesRecords)
    (hr : codec.ReadsRecords) (options : CaptureOptions)
    (hs : ∀ sides, options.videoSize = some sides →
      ∃ w h size, VideoSize.new w h = .ok size ∧ size.sides = sides) :
    (codec.write options >>= codec.read) = .ok options ∧
    ∀ (ms : List (Option OptionField)) (text : String),
      Document (ms.map (Option.map fun field ↦ (field, field.toValue options))) text.toList →
      (ms.filterMap id).Nodup → codec.read text = .ok (options.only (ms.filterMap id)) := by
  have hmade : ∀ sides, options.videoSize = some sides →
      ∃ size : VideoSize, size.sides = sides := by
    intro sides hsides
    obtain ⟨_, _, size, -, hsize⟩ := hs sides hsides
    exact ⟨size, hsize⟩
  refine ⟨?_, fun ms text hdocument ↦ hr.read_eq hmade ms hdocument⟩
  obtain ⟨text, hwrite, hdocument⟩ := hw options
  have hall : (OptionField.all.map some).filterMap id = OptionField.all := by decide
  have hread := hr.read_eq hmade (OptionField.all.map some) (by rwa [List.map_map])
    (by rw [hall]; decide)
  rw [hwrite]
  exact hread.trans (by rw [hall, only_all])

end CaptureOptions

namespace OptionField

theorem Stands.reader_eq {field : OptionField} {v : Value} {setting : Setting}
    (hs : field.Stands v setting) {s s₁ t : List Char} (h : Blanks s s₁) (hv : Notes v s₁ t)
    (ht : Ends t) : field.reader s = .ok (setting, t) := by
  cases hs with
  | drawMouse | showRegion | nonblocking => exact Reader.bind_of_ok (flag_of_notes h hv) _
  | frameRate hparse => exact Reader.bind_of_ok (parsed_of_notes h hv hparse) _
  | wholeArea => exact Reader.bind_of_ok (orNull_of_null h hv) _
  | videoSize hparse =>
    have hread := parsed_of_notes (.none _) hv hparse
    exact Reader.bind_of_ok (orNull_of_notes h hv hread) _
  | offsetX | offsetY => exact Reader.bind_of_ok (int32_of_notes h hv ht) _

theorem notes_toValue (options : CaptureOptions) (field : OptionField) (t : List Char) :
    Notes (field.toValue options) ((field.toValue options).text.toList ++ t) t := by
  cases field with
  | drawMouse | showRegion | nonblocking => exact notes_bool _ t
  | frameRate => exact notes_string _ t
  | videoSize =>
    rw [toValue]
    cases options.videoSize with
    | none => exact .null t
    | some sides => exact notes_string _ t
  | offsetX | offsetY => exact .int _ t

end OptionField

namespace CaptureOptions

variable {m : Option (OptionField × Value)} {ms : List (Option (OptionField × Value))}
  {s s₀ t : List Char} {first : Bool} {given : List OptionField} {o : CaptureOptions} {fuel : Nat}

theorem Member.exists_cons (h : Member m s t) : ∃ s', s = '"' :: s' := by
  cases h <;> exact ⟨_, rfl⟩

theorem Member.length_lt (h : Member m s t) : t.length < s.length := by
  cases h with
  | option hn hc hb hv =>
    have hname := Nat.lt_trans hc.length_lt hn.length_lt
    have hvalue := Nat.le_trans hv.length_le hb.length_le
    exact Nat.lt_succ_of_lt (Nat.lt_of_le_of_lt hvalue hname)
  | other hn _ hc hb hv =>
    have hname := Nat.lt_trans hc.length_lt hn.length_lt
    have hvalue := Nat.lt_of_lt_of_le hv.length_lt hb.length_le
    exact Nat.lt_succ_of_lt (Nat.lt_trans hvalue hname)

theorem Members.length_lt (h : Members first ms s t) : t.length < s.length := by
  induction h with
  | done hb => exact hb.length_lt
  | first hb hm _ ih => exact Nat.lt_of_lt_of_le (Nat.lt_trans ih hm.length_lt) hb.length_le
  | next hc hb hm _ ih =>
    exact Nat.lt_trans (Nat.lt_of_lt_of_le (Nat.lt_trans ih hm.length_lt) hb.length_le) hc.length_lt

theorem Members.ends (h : Members false ms s t) : Ends s := by
  cases h with
  | done hb => exact .of_blanks hb (.inr rfl)
  | next hc _ _ _ => exact .of_blanks hc (.inl rfl)

theorem readMembers_succ (first : Bool) (given : List OptionField) (o : CaptureOptions)
    (fuel : Nat) : readMembers first given o (fuel + 1) = (do
      if ← nextMember first then
        match OptionField.ofName? (← string) with
        | some field =>
          if field ∈ given then throw .mismatch
          colon
          readMembers false (field :: given) (o.apply (← field.reader)) fuel
        | none =>
          colon
          skipValue (2 * (← remaining) + 2)
          readMembers false given o fuel
      else return o) := rfl

theorem Member.read_option {field : OptionField} {v : Value} {setting : Setting}
    (h : Member (some (field, v)) ('"' :: s) t) (hnext : nextMember first s₀ = .ok (true, s))
    (hs : field.Stands v setting) (hfree : field ∉ given) (ht : Ends t) :
    readMembers first given o (fuel + 1) s₀ =
      readMembers false (field :: given) (o.apply setting) fuel t := by
  rw [readMembers_succ, Reader.bind_of_ok hnext, if_pos rfl]
  cases h with
  | option hn hc hb hv =>
    rw [Reader.bind_of_ok hn.string_eq, String.ofList_toList, OptionField.ofName?_name]
    simp only
    rw [if_neg hfree, Reader.bind_of_ok (colon_of_blanks hc),
      Reader.bind_of_ok (hs.reader_eq hb hv ht)]

theorem Member.read_other (h : Member none ('"' :: s) t)
    (hnext : nextMember first s₀ = .ok (true, s)) :
    readMembers first given o (fuel + 1) s₀ = readMembers false given o fuel t := by
  rw [readMembers_succ, Reader.bind_of_ok hnext, if_pos rfl]
  cases h with
  | @other name _ s₁ s₂ s₃ _ hn hname hc hb hv =>
    have hle := hb.length_le
    have hskip : skipValue (2 * s₂.length + 2) s₂ = .ok ((), t) := by
      rw [skipValue_blanks hb]
      exact hv.skipValue_eq (by omega)
    rw [Reader.bind_of_ok hn.string_eq, String.ofList_toList, hname]
    simp only
    rw [Reader.bind_of_ok (colon_of_blanks hc), Reader.bind_of_ok (remaining_eq s₂),
      Reader.bind_of_ok hskip]

def AreNew (ms : List (Option (OptionField × Value))) (given : List OptionField) : Prop :=
  ((ms.filterMap id).map Prod.fst ++ given).Nodup

theorem Member.read_cons {s₁ : List Char} (hm : Member m ('"' :: s) s₁)
    (hr : Members false ms s₁ t) (hnext : nextMember first s₀ = .ok (true, s))
    (hnew : AreNew (m :: ms) given) {settings : List Setting} (hs : Says (m :: ms) settings)
    (hread : ∀ {given o settings}, AreNew ms given → Says ms settings →
      readMembers false given o fuel s₁ = .ok (settings.foldl apply o, '}' :: t)) :
    readMembers first given o (fuel + 1) s₀ = .ok (settings.foldl apply o, '}' :: t) := by
  cases m with
  | none => rw [hm.read_other hnext, hread hnew hs]
  | some entry =>
    obtain ⟨field, v⟩ := entry
    obtain ⟨setting, settings, hstands, hrest, rfl⟩ := List.forall₂_cons_left_iff.mp hs
    have hnew' : (field :: ((ms.filterMap id).map Prod.fst ++ given)).Nodup := hnew
    have hfree : field ∉ given :=
      fun hmem ↦ (List.nodup_cons.mp hnew').1 (List.mem_append_right _ hmem)
    rw [hm.read_option hnext hstands hfree hr.ends, hread (List.perm_middle.nodup_iff.mpr hnew') hrest,
      List.foldl_cons]

/-- The members are read one by one; `given` are the options that stand before them. -/
theorem Members.read (h : Members first ms s t) (hnew : AreNew ms given)
    {settings : List Setting} (hs : Says ms settings) (hf : s.length ≤ t.length + fuel) :
    readMembers first given o fuel s = .ok (settings.foldl apply o, '}' :: t) := by
  induction h generalizing given o settings fuel with
  | done hb =>
    obtain ⟨fuel, rfl⟩ := exists_succ_of_lt hf hb.length_lt
    obtain rfl := List.forall₂_nil_left_iff.mp hs
    rw [readMembers_succ, Reader.bind_of_ok (nextMember_close hb _)]
    rfl
  | first hb hm hr ih =>
    have hle := hb.length_le
    have hmember := hm.length_lt
    have hrest := hr.length_lt
    obtain ⟨s', rfl⟩ := hm.exists_cons
    obtain ⟨fuel, rfl⟩ := exists_succ_of_lt hf (by omega)
    exact hm.read_cons hr (nextMember_first hb) hnew hs fun hnew hs ↦ ih hnew hs (by omega)
  | next hc hb hm hr ih =>
    have hle := Nat.lt_of_le_of_lt hb.length_le hc.length_lt
    have hmember := hm.length_lt
    have hrest := hr.length_lt
    obtain ⟨s', rfl⟩ := hm.exists_cons
    obtain ⟨fuel, rfl⟩ := exists_succ_of_lt hf (by omega)
    exact hm.read_cons hr (nextMember_comma hc hb) hnew hs fun hnew hs ↦ ih hnew hs (by omega)

theorem Document.parse_eq {text : String} (h : Document ms text.toList)
    (hnodup : ((ms.filterMap id).map Prod.fst).Nodup) {settings : List Setting}
    (hs : Says ms settings) :
    CaptureOptions.parse text = .ok (settings.foldl apply standard) := by
  cases h with
  | @mk s t hb hm hend =>
    have hmembers : readMembers true [] standard (s.length + 1) s =
        .ok (settings.foldl apply standard, '}' :: t) :=
      hm.read (by rwa [AreNew, List.append_nil]) hs (by omega)
    have hread : reader text.toList = .ok (settings.foldl apply standard, t) := by
      rw [reader, hb.bind_token, Reader.bind_of_ok (token_cons (by decide) _)]
      simp only
      rw [Reader.bind_of_ok (skip_cons _ _), Reader.bind_of_ok (remaining_eq s),
        Reader.bind_of_ok hmembers, Reader.bind_of_ok (close_cons (by decide) t)]
      rfl
    exact Reader.run_of_ok hread hend

variable (options : CaptureOptions)

def memberText (field : OptionField) : List Char :=
  (stringText field.name ++ ":" ++ (field.toValue options).text).toList

theorem member_text (field : OptionField) (t : List Char) :
    Member (some (field, field.toValue options)) (options.memberText field ++ t) t := by
  have hname := spells_flatMap field.name.toList (':' :: ((field.toValue options).text.toList ++ t))
  have htext : options.memberText field ++ t = '"' :: (field.name.toList.flatMap escapedChar ++
      '"' :: ':' :: ((field.toValue options).text.toList ++ t)) := by
    simp [memberText, String.toList_append, toList_stringText]
  rw [htext]
  exact .option hname (.none _) (.none _) (field.notes_toValue options t)

theorem intercalate_comma (l : List Char) (ls : List (List Char)) :
    [','].intercalate (l :: ls) = l ++ ls.flatMap (',' :: ·) := by
  induction ls generalizing l with
  | nil => simp
  | cons l' ls ih => simp [ih]

theorem nextMembers_text (fields : List OptionField) (t : List Char) :
    Members false (fields.map fun field ↦ some (field, field.toValue options))
      (fields.flatMap (fun field ↦ ',' :: options.memberText field) ++ '}' :: t) t := by
  induction fields with
  | nil => exact .done (.none _)
  | cons field fields ih =>
    rw [List.flatMap_cons, List.cons_append, List.cons_append, List.append_assoc]
    exact .next (.none _) (.none _) (options.member_text field _) ih

theorem toList_text_toValue : options.toValue.text.toList =
    '{' :: ([','].intercalate (OptionField.all.map options.memberText) ++ ['}']) := by
  have hmembers (fields : List OptionField) :
      Value.memberTexts (fields.map fun field ↦ (field.name, field.toValue options)) =
        fields.map fun field ↦ stringText field.name ++ ":" ++ (field.toValue options).text := by
    induction fields with
    | nil => rw [List.map_nil, List.map_nil, Value.memberTexts]
    | cons field fields ih => rw [List.map_cons, List.map_cons, Value.memberTexts, ih]
  rw [toValue, Value.text, hmembers, String.toList_append, String.toList_append,
    String.toList_intercalate, List.map_map]
  rfl

theorem document_text :
    Document (OptionField.all.map fun field ↦ some (field, field.toValue options))
      options.toValue.text.toList := by
  have hmembers (field : OptionField) (fields : List OptionField) :
      Members true ((field :: fields).map fun field ↦ some (field, field.toValue options))
        ([','].intercalate ((field :: fields).map options.memberText) ++ ['}']) [] := by
    rw [List.map_cons, List.map_cons, intercalate_comma, List.append_assoc, List.flatMap_map]
    exact .first (.none _) (options.member_text field _) (options.nextMembers_text fields [])
  rw [toList_text_toValue]
  exact .mk (.none _) (hmembers _ _) (.none [])

def codec : Codec Fault := ⟨fun options ↦ .ok options.toValue.text, CaptureOptions.parse⟩

theorem codec_writesRecords : codec.WritesRecords :=
  fun options ↦ ⟨options.toValue.text, rfl, options.document_text⟩

theorem codec_readsRecords : codec.ReadsRecords :=
  fun _ _ _ hdocument hnodup hs ↦ hdocument.parse_eq hnodup hs

theorem json_roundTrip_offset :
    let options := { standard with videoSize := some ⟨640, 480⟩, offsetY := -3 }
    let text := "\x7b \"x\":null, \"offset_y\":-3\x7d"
    (codec.WritesRecords ∧ codec.ReadsRecords ∧
      (VideoSize.new 640 480).map VideoSize.sides = .ok ⟨640, 480⟩) ∧
    (codec.write options >>= codec.read) = .ok options ∧
      codec.read text = .ok { standard with offsetY := -3 } := by
  intro options text
  have htext : text.toList = '{' :: ' ' :: '"' :: 'x' :: '"' :: ':' :: ("null".toList ++
      ',' :: ' ' :: (options.memberText .offsetY ++ ['}'])) := by decide
  have hname : Spells "x".toList ('x' :: '"' :: ':' :: ("null".toList ++
      ',' :: ' ' :: (options.memberText .offsetY ++ ['}']))) _ :=
    spells_flatMap "x".toList _
  have hdocument : Document ([none, some OptionField.offsetY].map
      (Option.map fun field ↦ (field, field.toValue options))) text.toList := by
    rw [htext]
    exact .mk (.none _)
      (.first (.blank rfl (.none _)) (.other hname (by decide) (.none _) (.none _) (.wordNull _))
        (.next (.none _) (.blank rfl (.none _)) (options.member_text .offsetY _) (.done (.none _))))
      (.none _)
  have hnew : (VideoSize.new 640 480).map VideoSize.sides = .ok ⟨640, 480⟩ := by decide
  have hs : ∀ sides, options.videoSize = some sides →
      ∃ w h size, VideoSize.new w h = .ok size ∧ size.sides = sides := by
    rintro _ ⟨⟩
    cases hsize : VideoSize.new 640 480 with
    | error _ =>
      rw [hsize] at hnew
      cases hnew
    | ok size =>
      rw [hsize] at hnew
      exact ⟨640, 480, size, hsize, Except.ok.inj hnew⟩
  obtain ⟨hback, hpart⟩ := json_roundTrip codec codec_writesRecords codec_readsRecords options hs
  exact ⟨⟨codec_writesRecords, codec_readsRecords, hnew⟩, hback,
    hpart [none, some .offsetY] text hdocument (by decide)⟩

end CaptureOptions

end ScreenCapture

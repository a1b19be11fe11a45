import ScreenCapture.Proofs.Action
import ScreenCapture.Proofs.LowestTerms
import ScreenCapture.Proofs.OptionsDocument
import Mathlib.Data.List.Basic

namespace ScreenCapture

namespace VideoSize

structure Sides.IsPositive (sides : Sides) : Prop where
  width_pos : 0 < sides.width
  height_pos : 0 < sides.height

theorem isPositive_sides (size : VideoSize) : size.sides.IsPositive where
  width_pos := by
    rw [UInt32.lt_iff_toNat_lt, width_sides]
    exact size.width_pos
  height_pos := by
    rw [UInt32.lt_iff_toNat_lt, height_sides]
    exact size.height_pos

theorem Sides.IsPositive.exists_size {sides : Sides} (h : sides.IsPositive) :
    ∃ size : VideoSize, size.sides = sides :=
  ⟨⟨sides.width.toNat, sides.height.toNat, h.width_pos, h.height_pos, sides.width.toNat_lt,
    sides.height.toNat_lt⟩, by simp [VideoSize.sides]⟩

end VideoSize

theorem FrameRate.Terms.IsLowest.exists_rate {terms : Terms} (h : terms.IsLowest) :
    ∃ rate : FrameRate, rate.terms = terms :=
  ⟨⟨terms.num.toNat, terms.den.toNat, h.num_pos, h.den_pos, terms.num.toNat_lt, terms.den.toNat_lt,
    h.coprime⟩, by simp [FrameRate.terms]⟩

/-- The options of a session as fields that hold whatever is put into them. -/
structure CaptureOptions.Fields where
  drawMouse : Bool
  showRegion : Bool
  frameRate : FrameRate.Terms
  videoSize : Option VideoSize.Sides
  offsetX : Int32
  offsetY : Int32
  nonblocking : Bool
deriving DecidableEq

def CaptureOptions.fields (options : CaptureOptions) : Fields where
  drawMouse := options.drawMouse
  showRegion := options.showRegion
  frameRate := options.frameRate.terms
  videoSize := options.videoSize
  offsetX := options.offsetX
  offsetY := options.offsetY
  nonblocking := options.nonblocking

structure Assignment where
  name : String
  text : String
deriving DecidableEq

namespace OptionField

def Content : OptionField → Type
  | drawMouse | showRegion | nonblocking => Bool
  | frameRate => FrameRate.Terms
  | videoSize => Option VideoSize.Sides
  | offsetX | offsetY => Int32

def read (text : String) : (field : OptionField) → Result field.Content
  | drawMouse => parseFlag drawMouse text
  | showRegion => parseFlag showRegion text
  | frameRate => FrameRate.terms <$> FrameRate.parse text
  | videoSize => (fun size ↦ some size.sides) <$> VideoSize.parse text
  | offsetX => parseOffset offsetX text
  | offsetY => parseOffset offsetY text
  | nonblocking => parseFlag nonblocking text

/-- What the assignment gives the field, if it is one for the field and succeeds. -/
def given? (field : OptionField) (assignment : Assignment) : Option field.Content :=
  if assignment.name = field.name then (field.read assignment.text).toOption else none

theorem ofName?_eq_some_iff {name : String} {field : OptionField} :
    ofName? name = some field ↔ name = field.name := by
  constructor
  · intro h
    have hname : field.name = name := by simpa using List.find?_some h
    exact hname.symm
  · rintro rfl
    exact field.ofName?_name

theorem name_injective : Function.Injective name := by
  intro field other h
  exact Option.some.inj (field.ofName?_name.symm.trans (ofName?_eq_some_iff.mpr h))

end OptionField

namespace Assignment

/-- What comes of the assignment, whatever the fields hold. -/
def outcome (assignment : Assignment) : Result Unit :=
  match OptionField.ofName? assignment.name with
  | some field => (field.read assignment.text).map fun _ ↦ ()
  | none => .error (.invalidConfig (.unknownOption assignment.name))

/-- The assignment is one for the field, and it succeeds. -/
def Sets (assignment : Assignment) (field : OptionField) : Prop :=
  assignment.name = field.name ∧ assignment.outcome = .ok ()

instance (field : OptionField) : DecidablePred (Sets · field) :=
  fun _ ↦ inferInstanceAs (Decidable (_ ∧ _))

variable {assignment : Assignment} {field : OptionField}

theorem outcome_of_name (h : assignment.name = field.name) :
    assignment.outcome = (field.read assignment.text).map fun _ ↦ () := by
  rw [outcome, OptionField.ofName?_eq_some_iff.mpr h]

theorem isSome_given?_iff : (field.given? assignment).isSome ↔ assignment.Sets field := by
  unfold OptionField.given? Sets
  split
  · next hname =>
    rw [outcome_of_name hname]
    cases field.read assignment.text <;> simp [hname, Except.map, Except.toOption]
  · next hname => simp [hname]

theorem given?_eq_none_iff : field.given? assignment = none ↔ ¬ assignment.Sets field := by
  rw [← isSome_given?_iff, Option.not_isSome_iff_eq_none]

theorem given?_eq_some_iff {value : field.Content} : field.given? assignment = some value ↔
    assignment.name = field.name ∧ field.read assignment.text = .ok value := by
  unfold OptionField.given?
  split
  · next hname => cases field.read assignment.text <;> simp [hname, Except.toOption]
  · next hname => simp [hname]

theorem sets_of_given? {value : field.Content} (h : field.given? assignment = some value) :
    assignment.Sets field :=
  isSome_given?_iff.mp (Option.isSome_of_eq_some h)

end Assignment

namespace CaptureOptions.Fields

variable {fields start : Fields} {field : OptionField}

def get (fields : Fields) : (field : OptionField) → field.Content
  | .drawMouse => fields.drawMouse
  | .showRegion => fields.showRegion
  | .frameRate => fields.frameRate
  | .videoSize => fields.videoSize
  | .offsetX => fields.offsetX
  | .offsetY => fields.offsetY
  | .nonblocking => fields.nonblocking

def put (fields : Fields) : (field : OptionField) → field.Content → Fields
  | .drawMouse, value => { fields with drawMouse := value }
  | .showRegion, value => { fields with showRegion := value }
  | .frameRate, value => { fields with frameRate := value }
  | .videoSize, value => { fields with videoSize := value }
  | .offsetX, value => { fields with offsetX := value }
  | .offsetY, value => { fields with offsetY := value }
  | .nonblocking, value => { fields with nonblocking := value }

theorem get_put (fields : Fields) (field : OptionField) (value : field.Content) :
    (fields.put field value).get = Function.update fields.get field value := by
  funext other
  cases field <;> cases other <;> rfl

theorem eq_of_get_eq {stop : Fields} (h : ∀ field, start.get field = stop.get field) :
    start = stop := by
  obtain ⟨_, _, _, _, _, _, _⟩ := start
  obtain ⟨_, _, _, _, _, _, _⟩ := stop
  exact Fields.mk.injEq .. ▸ ⟨h .drawMouse, h .showRegion, h .frameRate, h .videoSize, h .offsetX,
    h .offsetY, h .nonblocking⟩

def set (name text : String) : Attempt Fields Unit := do
  match OptionField.ofName? name with
  | some field =>
    let value ← field.read text
    modify (·.put field value)
  | none => throw (.invalidConfig (.unknownOption name))

theorem set_name (field : OptionField) (text : String) (fields : Fields) :
    set field.name text fields = match field.read text with
      | .ok value => (.ok (), fields.put field value)
      | .error error => (.error error, fields) := by
  unfold set
  rw [field.ofName?_name]
  refine (Attempt.bind_apply _ _ fields).trans ?_
  cases field.read text <;> rfl

theorem set_of_unknown {name : String} (h : OptionField.ofName? name = none) (text : String)
    (fields : Fields) :
    set name text fields = (.error (.invalidConfig (.unknownOption name)), fields) := by
  unfold set
  rw [h]
  rfl

theorem set_cases (assignment : Assignment) (fields : Fields) :
    (∃ (field : OptionField) (value : field.Content), field.given? assignment = some value ∧
      set assignment.name assignment.text fields = (.ok (), fields.put field value)) ∨
    ∃ error, assignment.outcome = .error error ∧
      set assignment.name assignment.text fields = (.error error, fields) := by
  cases hname : OptionField.ofName? assignment.name with
  | none =>
    refine .inr ⟨_, ?_, set_of_unknown hname _ fields⟩
    rw [Assignment.outcome, hname]
  | some field =>
    have hfield := OptionField.ofName?_eq_some_iff.mp hname
    rw [hfield, set_name]
    cases hread : field.read assignment.text with
    | ok value => exact .inl ⟨field, value, Assignment.given?_eq_some_iff.mpr ⟨hfield, hread⟩, rfl⟩
    | error error =>
      refine .inr ⟨error, ?_, rfl⟩
      rw [Assignment.outcome_of_name hfield, hread]
      rfl

theorem outcome_set (assignment : Assignment) (fields : Fields) :
    (set assignment.name assignment.text fields).1 = assignment.outcome := by
  rcases set_cases assignment fields with ⟨field, value, hgiven, hset⟩ | ⟨error, houtcome, hset⟩
  · rw [hset, (Assignment.sets_of_given? hgiven).2]
  · rw [hset, houtcome]

theorem get_set (assignment : Assignment) (fields : Fields) (field : OptionField) :
    (set assignment.name assignment.text fields).2.get field =
      (field.given? assignment).getD (fields.get field) := by
  rcases set_cases assignment fields with ⟨changed, value, hgiven, hset⟩ | ⟨error, houtcome, hset⟩
  · rw [hset, get_put]
    by_cases hfield : field = changed
    · subst hfield
      rw [hgiven, Option.getD_some, Function.update_self]
    · have hnone : field.given? assignment = none := by
        refine Assignment.given?_eq_none_iff.mpr fun hsets ↦ hfield ?_
        exact OptionField.name_injective (hsets.1.symm.trans (Assignment.sets_of_given? hgiven).1)
      rw [hnone, Option.getD_none, Function.update_of_ne hfield]
  · have hnone : field.given? assignment = none := by
      refine Assignment.given?_eq_none_iff.mpr fun hsets ↦ ?_
      cases houtcome.symm.trans hsets.2
    rw [hset, hnone, Option.getD_none]

theorem snd_set_of_error {name text : String} {error : CaptureError}
    (h : (set name text fields).1 = .error error) : (set name text fields).2 = fields := by
  rcases set_cases ⟨name, text⟩ fields with ⟨field, value, -, hset⟩ | ⟨error', -, hset⟩
  · rw [hset] at h
    cases h
  · rw [hset]

theorem exists_field_of_set {name text : String} (h : (set name text fields).1 = .ok ()) :
    ∃ field : OptionField, field.name = name ∧
      field.read text = .ok ((set name text fields).2.get field) ∧
      ∀ other, other ≠ field → (set name text fields).2.get other = fields.get other := by
  rcases set_cases ⟨name, text⟩ fields with ⟨field, value, hgiven, hset⟩ | ⟨error, -, hset⟩
  · obtain ⟨hname, hread⟩ := Assignment.given?_eq_some_iff.mp hgiven
    rw [hset, get_put]
    refine ⟨field, hname.symm, ?_, fun other hother ↦ Function.update_of_ne hother _ _⟩
    rw [Function.update_self]
    exact hread
  · rw [hset] at h
    cases h

def setAll : List Assignment → StateM Fields (List (Result Unit))
  | [] => return []
  | assignment :: assignments => do
    let outcome ← (set assignment.name assignment.text).run
    let outcomes ← setAll assignments
    return outcome :: outcomes

theorem setAll_cons (assignment : Assignment) (assignments : List Assignment) (fields : Fields) :
    setAll (assignment :: assignments) fields =
      let next := set assignment.name assignment.text fields
      let rest := setAll assignments next.2
      (next.1 :: rest.1, rest.2) := rfl

theorem outcomes_setAll (assignments : List Assignment) (fields : Fields) :
    (setAll assignments fields).1 = assignments.map Assignment.outcome := by
  induction assignments generalizing fields with
  | nil => rfl
  | cons assignment assignments ih =>
    rw [setAll_cons, List.map_cons, ← outcome_set assignment fields, ← ih]

theorem get_setAll (assignments : List Assignment) (fields : Fields) (field : OptionField) :
    (setAll assignments fields).2.get field =
      (assignments.filterMap field.given?).getLast?.getD (fields.get field) := by
  induction assignments generalizing fields with
  | nil => rfl
  | cons assignment assignments ih =>
    rw [setAll_cons, ih, get_set]
    cases hgiven : field.given? assignment with
    | none => rw [List.filterMap_cons_none hgiven, Option.getD_none]
    | some value =>
      rw [List.filterMap_cons_some hgiven, List.getLast?_cons, Option.getD_some, Option.getD_some]

/-- The field holds what the last assignment for it that succeeds has as its value, or what it held
in the beginning if there is none. -/
inductive EndsAs (start stop : Fields) (assignments : List Assignment) (field : OptionField) : Prop
  | kept : (∀ assignment ∈ assignments, ¬ assignment.Sets field) →
    stop.get field = start.get field → EndsAs start stop assignments field
  | given {earlier later : List Assignment} {last : Assignment} :
    assignments = earlier ++ last :: later → last.Sets field →
    field.read last.text = .ok (stop.get field) →
    (∀ assignment ∈ later, ¬ assignment.Sets field) → EndsAs start stop assignments field

theorem endsAs_setAll (assignments : List Assignment) (start : Fields) (field : OptionField) :
    EndsAs start (setAll assignments start).2 assignments field := by
  have hget := get_setAll assignments start field
  rw [List.getLast?_filterMap] at hget
  cases hlast : assignments.reverse.findSome? field.given? with
  | none =>
    rw [hlast] at hget
    refine .kept (fun assignment hmem ↦ Assignment.given?_eq_none_iff.mp ?_) hget
    exact List.findSome?_eq_none_iff.mp hlast assignment (List.mem_reverse.mpr hmem)
  | some value =>
    rw [hlast, Option.getD_some] at hget
    -- the list is searched from its end, so what comes first in the split is later
    obtain ⟨later, last, earlier, hsplit, hgiven, hlater⟩ := List.findSome?_eq_some_iff.mp hlast
    have hsplit' : assignments = earlier.reverse ++ last :: later.reverse := by
      rw [← List.reverse_inj, hsplit]
      simp
    refine .given hsplit' (Assignment.sets_of_given? hgiven) ?_ fun assignment hmem ↦ ?_
    · rw [hget]
      exact (Assignment.given?_eq_some_iff.mp hgiven).2
    · exact Assignment.given?_eq_none_iff.mp (hlater assignment (List.mem_reverse.mp hmem))

/-- Only the assignments that succeed count, and among them only the order of those for the same
option. -/
theorem setAll_congr {assignments assignments' : List Assignment} (start : Fields)
    (h : ∀ field, assignments.filter (·.Sets field) = assignments'.filter (·.Sets field)) :
    (setAll assignments start).2 = (setAll assignments' start).2 := by
  -- whatever is left out by the filter gives the field nothing
  have hfilter (field : OptionField) (l : List Assignment) :
      (l.filter (·.Sets field)).filterMap field.given? = l.filterMap field.given? := by
    rw [List.filterMap_filter]
    refine List.filterMap_congr fun assignment _ ↦ ?_
    split
    · rfl
    · next hsets => exact (Assignment.given?_eq_none_iff.mpr (by simpa using hsets)).symm
  refine eq_of_get_eq fun field ↦ ?_
  rw [get_setAll, get_setAll, ← hfilter field assignments, h, hfilter]

theorem setAll_remove {earlier later : List Assignment} {assignment : Assignment} (start : Fields)
    (h : assignment.outcome ≠ .ok ()) :
    (setAll (earlier ++ assignment :: later) start).2 = (setAll (earlier ++ later) start).2 := by
  refine setAll_congr start fun field ↦ ?_
  have hsets : ¬ assignment.Sets field := fun hsets ↦ h hsets.2
  rw [List.filter_append, List.filter_append, List.filter_cons_of_neg (by simpa using hsets)]

structure IsValid (fields : Fields) : Prop where
  frameRate : fields.frameRate.IsLowest
  videoSize : ∀ sides, fields.videoSize = some sides → sides.IsPositive

theorem IsValid.put (hf : fields.IsValid) {text : String} {value : field.Content}
    (h : field.read text = .ok value) : (fields.put field value).IsValid := by
  cases field with
  | frameRate =>
    obtain ⟨rate, -, rfl⟩ := exists_of_map_eq_ok h
    exact ⟨rate.isLowest_terms, hf.videoSize⟩
  | videoSize =>
    obtain ⟨size, -, rfl⟩ := exists_of_map_eq_ok h
    refine ⟨hf.frameRate, fun sides hsides ↦ ?_⟩
    cases hsides
    exact size.isPositive_sides
  | drawMouse | showRegion | offsetX | offsetY | nonblocking => exact ⟨hf.frameRate, hf.videoSize⟩

theorem IsValid.set (hf : fields.IsValid) (assignment : Assignment) :
    (set assignment.name assignment.text fields).2.IsValid := by
  rcases set_cases assignment fields with ⟨field, value, hgiven, hset⟩ | ⟨error, -, hset⟩
  · rw [hset]
    exact hf.put (Assignment.given?_eq_some_iff.mp hgiven).2
  · rwa [hset]

theorem IsValid.setAll (hf : fields.IsValid) (assignments : List Assignment) :
    (setAll assignments fields).2.IsValid := by
  induction assignments generalizing fields with
  | nil => exact hf
  | cons assignment assignments ih =>
    rw [setAll_cons]
    exact ih (hf.set assignment)

theorem isValid_iff : fields.IsValid ↔ ∃ options : CaptureOptions, options.fields = fields ∧
    ∀ sides, options.videoSize = some sides → ∃ size : VideoSize, size.sides = sides := by
  constructor
  · intro hf
    obtain ⟨rate, hrate⟩ := hf.frameRate.exists_rate
    refine ⟨⟨fields.drawMouse, fields.showRegion, rate, fields.videoSize, fields.offsetX,
      fields.offsetY, fields.nonblocking⟩, ?_, fun sides hs ↦ (hf.videoSize sides hs).exists_size⟩
    rw [CaptureOptions.fields, hrate]
  · rintro ⟨options, rfl, hsize⟩
    refine ⟨options.frameRate.isLowest_terms, fun sides hs ↦ ?_⟩
    obtain ⟨size, rfl⟩ := hsize sides hs
    exact size.isPositive_sides

theorem set_fields (options : CaptureOptions) (name text : String) :
    set name text options.fields = ((options.set name text).map fun _ ↦ (),
      ((options.set name text).toOption.getD options).fields) := by
  unfold CaptureOptions.set
  cases hname : OptionField.ofName? name with
  | none => exact set_of_unknown hname text options.fields
  | some field =>
    obtain rfl := OptionField.ofName?_eq_some_iff.mp hname
    rw [set_name]
    cases field with
    | drawMouse | showRegion | nonblocking =>
      simp only [OptionField.parse, OptionField.read]
      cases OptionField.parseFlag _ text <;> rfl
    | frameRate =>
      simp only [OptionField.parse, OptionField.read]
      cases FrameRate.parse text <;> rfl
    | videoSize =>
      simp only [OptionField.parse, OptionField.read]
      cases VideoSize.parse text <;> rfl
    | offsetX | offsetY =>
      simp only [OptionField.parse, OptionField.read]
      cases OptionField.parseOffset _ text <;> rfl

/-- Options are set in place, whatever they hold. An assignment that fails changes none of the seven
fields and can be left out; one that succeeds changes the field of its name and no other. So each
field ends as the last assignment for it that succeeds leaves it, and assignments for different
fields can be made in any order. Valid options are valid at each point of the way. -/
theorem last_assignment_wins :
    (∀ (options : CaptureOptions) name text, set name text options.fields =
      ((options.set name text).map fun _ ↦ (),
        ((options.set name text).toOption.getD options).fields)) ∧
    (∀ assignments start, (setAll assignments start).1 = assignments.map Assignment.outcome) ∧
    (∀ name text fields error, (set name text fields).1 = .error error →
      (set name text fields).2 = fields) ∧
    (∀ name text fields, (set name text fields).1 = .ok () → ∃ field : OptionField,
      field.name = name ∧ field.read text = .ok ((set name text fields).2.get field) ∧
        ∀ other, other ≠ field → (set name text fields).2.get other = fields.get other) ∧
    (∀ assignments start field, EndsAs start (setAll assignments start).2 assignments field) ∧
    (∀ earlier assignment later start, assignment.outcome ≠ .ok () →
      (setAll (earlier ++ assignment :: later) start).2 = (setAll (earlier ++ later) start).2) ∧
    (∀ assignments assignments' start,
      (∀ field, assignments.filter (·.Sets field) = assignments'.filter (·.Sets field)) →
      (setAll assignments start).2 = (setAll assignments' start).2) ∧
    (∀ fields, fields.IsValid ↔ ∃ options : CaptureOptions, options.fields = fields ∧
      ∀ sides, options.videoSize = some sides → ∃ size : VideoSize, size.sides = sides) ∧
    ∀ (assignments : List Assignment) n start, start.IsValid →
      (setAll (assignments.take n) start).2.IsValid :=
  ⟨set_fields, outcomes_setAll, fun _ _ _ _ ↦ snd_set_of_error, fun _ _ _ ↦ exists_field_of_set,
    endsAs_setAll, fun _ _ _ start ↦ setAll_remove start, fun _ _ start ↦ setAll_congr start,
    fun _ ↦ isValid_iff, fun assignments n _ hstart ↦ hstart.setAll (assignments.take n)⟩

theorem last_assignment_wins_over_refused :
    let start : Fields := { CaptureOptions.standard.fields with videoSize := some ⟨0, 5⟩ }
    let film : Assignment := ⟨"framerate", "film"⟩
    let pal : Assignment := ⟨"framerate", "pal"⟩
    let left : Assignment := ⟨"offset_x", "-1920"⟩
    let maybe : Assignment := ⟨"draw_mouse", "maybe"⟩
    ((set maybe.name maybe.text start).1 = .error (.invalidConfig (.flag "draw_mouse" "maybe")) ∧
      (set maybe.name maybe.text start).2 = start) ∧
    ((set film.name film.text start).1 = .ok () ∧
      (set film.name film.text start).2.videoSize = some ⟨0, 5⟩) ∧
    (setAll [film, maybe, left, pal] start).2 = (setAll [left, film, pal] start).2 ∧
    (setAll [left, film, pal] start).2.frameRate = ⟨25, 1⟩ ∧
    CaptureOptions.standard.fields.IsValid ∧
    (setAll ([film, maybe, left, pal].take 3) CaptureOptions.standard.fields).2.IsValid := by
  intro start film pal left maybe
  obtain ⟨-, -, herror, hok, -, hremove, hcongr, hvalid, hsetAll⟩ := last_assignment_wins
  have hmaybe : maybe.outcome = .error (.invalidConfig (.flag "draw_mouse" "maybe")) := by decide
  have hfilm : film.outcome = .ok () := by decide
  have hrefused := (outcome_set maybe start).trans hmaybe
  have hdone := (outcome_set film start).trans hfilm
  obtain ⟨field, hname, -, hother⟩ := hok _ _ start hdone
  obtain rfl : field = .frameRate := OptionField.name_injective hname
  have horder (field : OptionField) : [film, left, pal].filter (·.Sets field) =
      [left, film, pal].filter (·.Sets field) := by
    cases field <;> decide
  have hstandard := (hvalid CaptureOptions.standard.fields).mpr ⟨_, rfl, nofun⟩
  refine ⟨⟨hrefused, herror _ _ start _ hrefused⟩, ⟨hdone, hother .videoSize (by decide)⟩, ?_, ?_,
    hstandard, hsetAll _ 3 _ hstandard⟩
  · have hwithout := hremove [film] maybe [left, pal] start (by rw [hmaybe]; nofun)
    exact hwithout.trans (hcongr _ _ start horder)
  · decide

end CaptureOptions.Fields

end ScreenCapture

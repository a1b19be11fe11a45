import ScreenCapture.Proofs.OptionOrigins
import ScreenCapture.Proofs.OptionsDocument

namespace ScreenCapture

open Json

namespace Setting

def field : Setting → OptionField
  | drawMouse _ => .drawMouse
  | showRegion _ => .showRegion
  | frameRate _ => .frameRate
  | videoSize _ => .videoSize
  | offsetX _ => .offsetX
  | offsetY _ => .offsetY
  | nonblocking _ => .nonblocking

end Setting

namespace OptionField

variable {field : OptionField} {setting : Setting} {options : CaptureOptions}

theorem field_of_ofValue {v : Value} (h : field.ofValue v = .ok setting) :
    setting.field = field := by
  cases field <;> obtain ⟨_, -, hs⟩ := exists_of_bind_eq_ok h <;> cases hs <;> rfl

theorem setting_apply_self (options : CaptureOptions) (setting : Setting) :
    setting.field.setting (options.apply setting) = setting := by
  cases setting <;> rfl

theorem setting_apply_of_ne (options : CaptureOptions) (h : field ≠ setting.field) :
    field.setting (options.apply setting) = field.setting options := by
  cases setting <;> cases field <;> first | rfl | exact absurd rfl h

end OptionField

namespace CaptureOptions

variable {options start stop : CaptureOptions}

def take (options : CaptureOptions) (given : OptionField × Option Value) :
    Except Mismatch CaptureOptions :=
  match given.2 with
  | some v => options.apply <$> given.1.ofValue v
  | none => .ok options

def Has (start stop : CaptureOptions) (given : OptionField × Option Value) : Prop :=
  match given.2 with
  | some v => given.1.ofValue v = .ok (given.1.setting stop)
  | none => given.1.setting stop = given.1.setting start

theorem has_of_take {given : OptionField × Option Value} (h : start.take given = .ok stop) :
    start.Has stop given ∧
      ∀ field, field ≠ given.1 → field.setting stop = field.setting start := by
  obtain ⟨field, value⟩ := given
  cases value with
  | none =>
    cases h
    exact ⟨rfl, fun _ _ ↦ rfl⟩
  | some v =>
    obtain ⟨setting, hv, rfl⟩ := exists_of_map_eq_ok h
    obtain rfl := OptionField.field_of_ofValue hv
    refine ⟨?_, fun _ hne ↦ OptionField.setting_apply_of_ne start hne⟩
    exact hv.trans (congrArg Except.ok (OptionField.setting_apply_self start setting).symm)

theorem has_of_foldlM {given : List (OptionField × Option Value)}
    (hn : (given.map Prod.fst).Nodup) (h : given.foldlM take start = .ok stop) :
    (∀ entry ∈ given, start.Has stop entry) ∧
      ∀ field, field ∉ given.map Prod.fst → field.setting stop = field.setting start := by
  induction given generalizing start with
  | nil =>
    cases h
    exact ⟨List.forall_mem_nil _, fun _ _ ↦ rfl⟩
  | cons entry given ih =>
    rw [List.foldlM_cons] at h
    obtain ⟨next, htake, hrest⟩ := exists_of_bind_eq_ok h
    obtain ⟨hhas, hother⟩ := has_of_take htake
    rw [List.map_cons, List.nodup_cons] at hn
    obtain ⟨hlater, hkept⟩ := ih hn.2 hrest
    -- the settings that are compared change once, at the entry of their own option
    have hfirst := hkept entry.1 hn.1
    refine ⟨List.forall_mem_cons.mpr ⟨?_, fun later hmem ↦ ?_⟩, fun field hfield ↦ ?_⟩
    · unfold Has at hhas ⊢
      rwa [hfirst]
    · have hsame := hother later.1 fun heq ↦ hn.1 (heq ▸ List.mem_map_of_mem hmem)
      have hhas' := hlater later hmem
      unfold Has at hhas' ⊢
      rwa [hsame] at hhas'
    · rw [List.map_cons, List.mem_cons, not_or] at hfield
      rw [hkept field hfield.2, hother field hfield.1]

/-- What a JSON value gives for each of the options: an object by their names, and a list in the
order in which options are written. -/
def given : Value → List (OptionField × Option Value)
  | .object members =>
    OptionField.byName.map fun field ↦ (field, (Value.object members).member? field.name)
  | .array elements => (OptionField.all.zip elements).map fun entry ↦ (entry.1, some entry.2)
  | _ => []

theorem nodup_given (v : Value) : ((given v).map Prod.fst).Nodup := by
  cases v with
  | object members =>
    have hfst : (given (.object members)).map Prod.fst = OptionField.byName := by
      rw [given, List.map_map]
      exact List.map_id _
    rw [hfst]
    decide
  | array elements =>
    have hfst : (given (.array elements)).map Prod.fst =
        OptionField.all.take (min OptionField.all.length elements.length) := by
      rw [given, List.map_map]
      change (OptionField.all.zip elements).map Prod.fst = _
      rw [List.zip_eq_zip_take_min, List.map_fst_zip (by simp)]
    rw [hfst]
    exact (by decide : OptionField.all.Nodup).sublist (List.take_sublist _ _)
  | _ => exact List.nodup_nil

theorem foldlM_of_ofValue {v : Value} (h : ofValue v = .ok options) :
    (given v).foldlM take standard = .ok options := by
  cases v with
  | object members =>
    rw [given, List.foldlM_map]
    exact h
  | array elements =>
    obtain ⟨read, hread, hrest⟩ := exists_of_bind_eq_ok h
    rw [given, List.foldlM_map]
    split at hrest
    · cases hrest
    · cases hrest
      exact hread
  | _ => cases h

/-- Every option of a JSON value is taken from it as it stands there. -/
theorem has_of_ofValue {v : Value} (h : ofValue v = .ok options) {entry : OptionField × Option Value}
    (he : entry ∈ given v) : standard.Has options entry :=
  (has_of_foldlM (nodup_given v) (foldlM_of_ofValue h)).1 entry he

end CaptureOptions

end ScreenCapture

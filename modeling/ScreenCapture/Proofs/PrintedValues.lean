import ScreenCapture.Options.Document
import ScreenCapture.Options.Value
import ScreenCapture.Proofs.JsonText
import ScreenCapture.Proofs.Selection
import ScreenCapture.Proofs.Spelling

namespace ScreenCapture

namespace Json

theorem controlEscape : ∀ n < 32,
    hexNumber? ['0', '0', hexDigit (n / 16), hexDigit n] = some n ∧
      isLeading n = false ∧ isTrailing n = false := by
  decide

theorem Spells.letter {cs s t : List Char} (h : Spells cs s t) {c d : Char} (hu : c ≠ 'u')
    (hd : simpleEscape? c = some d) : Spells (d :: cs) ('\\' :: c :: s) t :=
  .escaped (.letter s hu hd) h

theorem Spells.control {cs s t : List Char} (h : Spells cs s t) {c : Char} (hc : c.toNat < 32) :
    Spells (c :: cs)
      ('\\' :: 'u' :: '0' :: '0' :: hexDigit (c.toNat / 16) :: hexDigit c.toNat :: s) t := by
  obtain ⟨hn, hl, ht⟩ := controlEscape c.toNat hc
  have hunit := Escape.unit s hn hl ht
  rw [Char.ofNat_toNat] at hunit
  exact .escaped hunit h

theorem Spells.escapedChar {cs s t : List Char} (h : Spells cs s t) (c : Char) :
    Spells (c :: cs) (escapedChar c ++ s) t := by
  unfold Json.escapedChar
  -- Seven characters have an escape of one letter.
  iterate 7
    split
    · next hc =>
      subst hc
      exact h.letter (by decide) rfl
  split
  · next hc => exact h.control hc
  · next hquote hslash _ _ _ _ _ hc => exact .plain hquote hslash (Nat.not_lt.mp hc) h

theorem spells_flatMap (cs t : List Char) :
    Spells cs (cs.flatMap Json.escapedChar ++ '"' :: t) t := by
  induction cs with
  | nil => exact .close t
  | cons c cs ih =>
    rw [List.flatMap_cons, List.append_assoc]
    exact ih.escapedChar c

theorem toList_stringText (text : String) :
    (stringText text).toList = '"' :: (text.toList.flatMap escapedChar ++ ['"']) := by
  simp [stringText, String.toList_append]

/-- The texts of a value that is no number with a point or an exponent, no list and no object. -/
inductive Notes : Value → List Char → List Char → Prop
  | null (t : List Char) : Notes .null ("null".toList ++ t) t
  | bool (b : Bool) (t : List Char) : Notes (.bool b) ((toString b).toList ++ t) t
  | int (v : Int) (t : List Char) : Notes (.number (.integer v)) ((toString v).toList ++ t) t
  | string {text : String} {s t : List Char} : Spells text.toList s t →
    Notes (.string text) ('"' :: s) t

theorem notes_bool (b : Bool) (t : List Char) :
    Notes (.bool b) ((Value.bool b).text.toList ++ t) t := by
  cases b with
  | true => exact .bool true t
  | false => exact .bool false t

theorem notes_string (text : String) (t : List Char) :
    Notes (.string text) ((Value.string text).text.toList ++ t) t := by
  have htext : (Value.string text).text.toList ++ t =
      '"' :: (text.toList.flatMap Json.escapedChar ++ '"' :: t) := by
    rw [Value.text, toList_stringText]
    simp
  exact htext ▸ .string (spells_flatMap text.toList t)

def Ends (t : List Char) : Prop :=
  ∀ c ∈ t.head?, c.isDigit = false ∧ c ≠ '.' ∧ isExponentMark (some c) = false

theorem Ends.of_blanks {c : Char} {s t : List Char} (h : Blanks s (c :: t))
    (hc : c = ',' ∨ c = '}') : Ends s := by
  cases h with
  | none => rcases hc with rfl | rfl <;> simp [Ends, isExponentMark]
  | blank hspace _ =>
    simp only [isSpace, Bool.or_eq_true, decide_eq_true_eq, or_assoc] at hspace
    rcases hspace with rfl | rfl | rfl | rfl <;> simp [Ends, isExponentMark]

theorem absorb_eq {v : Nat} {cs : List Char} (hle : Nat.ofDigitChars 10 cs v ≤ 0xffffffffffffffff) :
    absorb v (cs.map fun c ↦ c.toNat - '0'.toNat) = (Nat.ofDigitChars 10 cs v, 0) := by
  induction cs generalizing v with
  | nil => rfl
  | cons c cs ih =>
    rw [Nat.ofDigitChars_cons, Nat.mul_comm] at hle ⊢
    have hnext := Nat.le_trans (le_ofDigitChars cs _) hle
    rw [List.map_cons, absorb, if_neg (Nat.not_lt.mpr hnext)]
    exact ih hle

theorem toDigits_of_head_zero {n : Nat} (h : (Nat.toDigits 10 n).head? = some '0') :
    Nat.toDigits 10 n = ['0'] := by
  induction n using Nat.strongRecOn with
  | ind n ih =>
    by_cases hn : n < 10
    · rw [Nat.toDigits_of_lt_base hn] at h ⊢
      exact congrArg (fun c ↦ [c]) (Option.some.inj h)
    · obtain ⟨c, cs, hcs, -⟩ := exists_cons_toDigits (n / 10)
      rw [Nat.toDigits_of_base_le (by decide) (Nat.not_lt.mp hn), hcs] at h
      have hzero : n / 10 = 0 := by
        have hdigits : Nat.toDigits 10 (n / 10) = ['0'] := ih (n / 10) (by omega) (by rwa [hcs])
        rw [← Nat.ofDigitChars_ten_toDigits (n := n / 10), hdigits]
        rfl
      omega

theorem digits_toDigits (n : Nat) {t : List Char} (ht : Ends t) :
    Digits (Nat.toDigits 10 n) (Nat.toDigits 10 n ++ t) t where
  text_eq := rfl
  ne_nil := Nat.toDigits_ne_nil
  isDigit := fun _ ↦ isDigit_of_mem_toDigits
  ends := fun c hc ↦ (ht c hc).1

theorem Ends.head?_ne {t : List Char} (h : Ends t) : t.head? ≠ some '.' :=
  fun hpoint ↦ (h '.' hpoint).2.1 rfl

theorem Ends.isExponentMark {t : List Char} (h : Ends t) : isExponentMark t.head? = false := by
  cases t with
  | nil => rfl
  | cons c t => exact (h c rfl).2.2

theorem number_of_digits {ds s t : List Char} {n : Nat} (h : Digits ds s t)
    (hzero : ds.head? = some '0' → ds = ['0'])
    (hn : absorb 0 (ds.map fun c ↦ c.toNat - '0'.toNat) = (n, 0)) (ht : Ends t)
    (negative : Bool) : number negative s = .ok (integer negative n, t) := by
  have hrest : (if t.head? = some '.' then skip >>= fun _ ↦ fraction negative n 0
      else if isExponentMark t.head? then skip >>= fun _ ↦ exponent negative n 0
      else pure (integer negative n) : Reader Number) t = .ok (integer negative n, t) := by
    rw [if_neg ht.head?_ne, ht.isExponentMark]
    rfl
  rw [number, Reader.bind_of_ok h.digitRun_eq]
  obtain ⟨v, hv⟩ | ⟨k, v, vs, hv⟩ := h.values hzero
  · rw [hv] at hn ⊢
    cases v <;> simp only [hn] <;> exact hrest
  · rw [hv] at hn ⊢
    simp only [hn]
    exact hrest

theorem number_toDigits {n : Nat} (hn : n ≤ 0xffffffffffffffff) {t : List Char} (ht : Ends t)
    (negative : Bool) : number negative (Nat.toDigits 10 n ++ t) = .ok (integer negative n, t) := by
  have habsorb : absorb 0 ((Nat.toDigits 10 n).map fun c ↦ c.toNat - '0'.toNat) = (n, 0) := by
    have hvalue : Nat.ofDigitChars 10 (Nat.toDigits 10 n) 0 = n := Nat.ofDigitChars_ten_toDigits
    rw [absorb_eq (by rwa [hvalue]), hvalue]
  exact number_of_digits (digits_toDigits n ht) toDigits_of_head_zero habsorb ht negative

theorem toList_toString_int (v : Int) : (toString v).toList =
    if 0 ≤ v then Nat.toDigits 10 v.toNat else '-' :: Nat.toDigits 10 (-v).toNat := by
  rw [Int.toString_eq_repr, Int.repr_eq_if]
  split
  · rw [Nat.toList_repr]
  · rw [String.toList_append, Nat.toList_repr]
    rfl

variable {s s₁ t : List Char}

theorem Notes.length_le {v : Value} (h : Notes v s t) : t.length ≤ s.length := by
  cases h with
  | null | bool | int =>
    rw [List.length_append]
    exact Nat.le_add_left ..
  | string hspells => exact Nat.le_succ_of_le (Nat.le_of_lt hspells.length_lt)

theorem flag_of_notes {b : Bool} (h : Blanks s s₁) (hv : Notes (.bool b) s₁ t) :
    flag s = .ok (b, t) := by
  rw [flag, h.bind_token]
  cases hv
  cases b with
  | true =>
    have htoken : token ("true".toList ++ t) = .ok (some 't', "true".toList ++ t) := rfl
    exact (Reader.bind_of_ok htoken _).trans (Reader.bind_of_ok (word_append "true".toList t) _)
  | false =>
    have htoken : token ("false".toList ++ t) = .ok (some 'f', "false".toList ++ t) := rfl
    exact (Reader.bind_of_ok htoken _).trans (Reader.bind_of_ok (word_append "false".toList t) _)

theorem narrow_integer (v : Int32) : int32.narrow (.integer v.toInt) = pure v := by
  rw [int32.narrow, if_pos (Coordinate.inRange_int32 v), Int32.ofInt_toInt]

theorem int32_of_notes {v : Int32} (h : Blanks s s₁)
    (hv : Notes (.number (.integer v.toInt)) s₁ t) (ht : Ends t) : int32 s = .ok (v, t) := by
  have hle := v.le_toInt
  have hlt := v.toInt_lt
  rw [int32, h.bind_token]
  cases hv
  rw [toList_toString_int]
  by_cases hsign : 0 ≤ v.toInt
  · obtain ⟨c, cs, hcs, hc⟩ := exists_cons_toDigits v.toInt.toNat
    have hnumber := number_toDigits (n := v.toInt.toNat) (by omega) ht false
    have hminus : c ≠ '-' := ne_of_isDigit hc (by decide)
    have hvalue : integer false v.toInt.toNat = .integer v.toInt := by
      rw [integer, Int.ofNat_toNat, Int.max_eq_left hsign]
      rfl
    rw [hcs, List.cons_append] at hnumber
    rw [if_pos hsign, hcs, List.cons_append,
      Reader.bind_of_ok (token_cons (isSpace_of_isDigit hc) _)]
    simp only [hc, if_true]
    rw [Reader.bind_of_ok hnumber, hvalue, narrow_integer]
    rfl
  · have hnumber := number_toDigits (n := (-v.toInt).toNat) (by omega) ht true
    have hvalue : integer true (-v.toInt).toNat = .integer v.toInt := by
      rw [integer, if_neg (by decide), if_pos (by omega), Int.toNat_of_nonneg (by omega),
        Int.neg_neg]
    rw [if_neg hsign, List.cons_append, Reader.bind_of_ok (token_cons (by decide) _)]
    simp only
    rw [Reader.bind_of_ok (skip_cons _ _), Reader.bind_of_ok hnumber, hvalue, narrow_integer]
    rfl

theorem parsed_of_notes {α : Type} {parse : String → Result α} {text : String} {a : α}
    (h : Blanks s s₁) (hv : Notes (.string text) s₁ t) (hparse : parse text = .ok a) :
    parsed parse s = .ok (a, t) := by
  rw [parsed, h.bind_token]
  cases hv with
  | @string _ rest _ hspells =>
    rw [Reader.bind_of_ok (token_cons (by decide) rest)]
    simp only
    rw [Reader.bind_of_ok (skip_cons _ _), Reader.bind_of_ok hspells.string_eq,
      String.ofList_toList, hparse]
    rfl

theorem orNull_of_null {α : Type} {reader : Reader α} (h : Blanks s s₁)
    (hv : Notes .null s₁ t) : orNull reader s = .ok (none, t) := by
  rw [orNull, h.bind_token]
  cases hv
  have htoken : token ("null".toList ++ t) = .ok (some 'n', "null".toList ++ t) := rfl
  exact (Reader.bind_of_ok htoken _).trans (Reader.bind_of_ok (word_append "null".toList t) _)

theorem orNull_of_notes {α : Type} {reader : Reader α} {text : String} {a : α}
    (h : Blanks s s₁) (hv : Notes (.string text) s₁ t) (hread : reader s₁ = .ok (a, t)) :
    orNull reader s = .ok (some a, t) := by
  rw [orNull, h.bind_token]
  cases hv with
  | @string _ rest _ _ =>
    rw [Reader.bind_of_ok (token_cons (by decide) rest)]
    exact (Reader.bind_of_ok hread _).trans rfl

end Json

end ScreenCapture

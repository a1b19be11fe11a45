import ScreenCapture.Json.Printer
import ScreenCapture.Json.Reader

namespace ScreenCapture.Json

inductive Blanks : List Char → List Char → Prop
  | none (t : List Char) : Blanks t t
  | blank {c : Char} {s t : List Char} : isSpace c = true → Blanks s t → Blanks (c :: s) t

inductive Escape : Char → List Char → List Char → Prop
  | letter {c d : Char} (t : List Char) : c ≠ 'u' → simpleEscape? c = some d → Escape d (c :: t) t
  | unit {a b c d : Char} {n : Nat} (t : List Char) : hexNumber? [a, b, c, d] = some n →
    isLeading n = false → isTrailing n = false →
    Escape (Char.ofNat n) ('u' :: a :: b :: c :: d :: t) t
  | pair {a b c d a' b' c' d' : Char} {n m : Nat} (t : List Char) :
    hexNumber? [a, b, c, d] = some n → hexNumber? [a', b', c', d'] = some m →
    isLeading n = true → isTrailing n = false → isTrailing m = true →
    Escape (ofPair n m)
      ('u' :: a :: b :: c :: d :: '\\' :: 'u' :: a' :: b' :: c' :: d' :: t) t

/-- The rest of a string, with its closing quote, and the characters that it means. -/
inductive Spells : List Char → List Char → List Char → Prop
  | close (t : List Char) : Spells [] ('"' :: t) t
  | plain {c : Char} {cs s t : List Char} : c ≠ '"' → c ≠ '\\' → 32 ≤ c.toNat →
    Spells cs s t → Spells (c :: cs) (c :: s) t
  | escaped {d : Char} {cs s s₁ t : List Char} : Escape d s s₁ → Spells cs s₁ t →
    Spells (d :: cs) ('\\' :: s) t

/-- The rest of a string of which nobody asks what it means, so that any code unit will do. -/
inductive Closes : List Char → List Char → Prop
  | close (t : List Char) : Closes ('"' :: t) t
  | plain {c : Char} {s t : List Char} : c ≠ '"' → c ≠ '\\' → 32 ≤ c.toNat → Closes s t →
    Closes (c :: s) t
  | letter {c d : Char} {s t : List Char} : c ≠ 'u' → simpleEscape? c = some d → Closes s t →
    Closes ('\\' :: c :: s) t
  | unit {a b c d : Char} {n : Nat} {s t : List Char} : hexNumber? [a, b, c, d] = some n →
    Closes s t → Closes ('\\' :: 'u' :: a :: b :: c :: d :: s) t

structure Digits (ds s t : List Char) : Prop where
  text_eq : s = ds ++ t
  ne_nil : ds ≠ []
  isDigit : ∀ c ∈ ds, c.isDigit = true
  ends : ∀ c ∈ t.head?, c.isDigit = false

inductive Fraction : List Char → List Char → Prop
  | none {t : List Char} : t.head? ≠ some '.' → Fraction t t
  | digits {ds s t : List Char} : Digits ds s t → Fraction ('.' :: s) t

inductive Exponent : List Char → List Char → Prop
  | none {t : List Char} : isExponentMark t.head? = false → Exponent t t
  | unsigned {mark : Char} {ds s t : List Char} : isExponentMark (some mark) = true →
    Digits ds s t → Exponent (mark :: s) t
  | signed {mark sign : Char} {ds s t : List Char} : isExponentMark (some mark) = true →
    sign = '+' ∨ sign = '-' → Digits ds s t → Exponent (mark :: sign :: s) t

/-- A number without its sign. Only zero itself begins with a zero. -/
inductive Numeral : List Char → List Char → Prop
  | mk {ds s s₁ s₂ t : List Char} : Digits ds s s₁ → (ds.head? = some '0' → ds = ['0']) →
    Fraction s₁ s₂ → Exponent s₂ t → Numeral s t

inductive Named : List Char → List Char → Prop
  | mk {s s₁ s₂ t : List Char} : Closes s s₁ → Blanks s₁ (':' :: s₂) → Blanks s₂ t → Named s t

/-- What a text can begin with: a value, or the rest of a list or of an object from behind one of
its members on. -/
inductive Form
  | value
  | elements
  | members

inductive Derives : Form → List Char → List Char → Prop
  | wordNull (t : List Char) : Derives .value ("null".toList ++ t) t
  | wordTrue (t : List Char) : Derives .value ("true".toList ++ t) t
  | wordFalse (t : List Char) : Derives .value ("false".toList ++ t) t
  | number {s t : List Char} : Numeral s t → Derives .value s t
  | negative {s t : List Char} : Numeral s t → Derives .value ('-' :: s) t
  | string {s t : List Char} : Closes s t → Derives .value ('"' :: s) t
  | emptyArray {s t : List Char} : Blanks s (']' :: t) → Derives .value ('[' :: s) t
  | array {s s₁ s₂ t : List Char} : Blanks s s₁ → Derives .value s₁ s₂ →
    Derives .elements s₂ t → Derives .value ('[' :: s) t
  | emptyObject {s t : List Char} : Blanks s ('}' :: t) → Derives .value ('{' :: s) t
  | object {s s₁ s₂ s₃ t : List Char} : Blanks s ('"' :: s₁) → Named s₁ s₂ →
    Derives .value s₂ s₃ → Derives .members s₃ t → Derives .value ('{' :: s) t
  | lastElement {s t : List Char} : Blanks s (']' :: t) → Derives .elements s t
  | nextElement {s s₁ s₂ s₃ t : List Char} : Blanks s (',' :: s₁) → Blanks s₁ s₂ →
    Derives .value s₂ s₃ → Derives .elements s₃ t → Derives .elements s t
  | lastMember {s t : List Char} : Blanks s ('}' :: t) → Derives .members s t
  | nextMember {s s₁ s₂ s₃ s₄ t : List Char} : Blanks s (',' :: s₁) → Blanks s₁ ('"' :: s₂) →
    Named s₂ s₃ → Derives .value s₃ s₄ → Derives .members s₄ t → Derives .members s t

namespace Reader

variable {α β : Type} {reader : Reader α} {s t : List Char} {a : α}

theorem bind_of_ok (h : reader s = .ok (a, t)) (next : α → Reader β) :
    (reader >>= next) s = next a t := by
  change Except.bind (reader s) _ = _
  rw [h]
  rfl

end Reader

variable {cs ds s s₁ s₂ s₃ t : List Char}

theorem exists_succ_of_lt {m n fuel : Nat} (hf : m ≤ n + fuel) (hlt : n < m) : ∃ k, fuel = k + 1 :=
  ⟨fuel - 1, by omega⟩

theorem token_cons {c : Char} (hc : isSpace c = false) (s : List Char) :
    token (c :: s) = .ok (some c, c :: s) := by
  rw [token, List.dropWhile_cons, if_neg (by simp [hc])]
  rfl

theorem Blanks.token_eq (h : Blanks s t) : token s = token t := by
  induction h with
  | none t => rfl
  | blank hc _ ih => rw [← ih, token, List.dropWhile_cons, if_pos hc, token]

theorem Blanks.token_cons {c : Char} (h : Blanks s (c :: t))
    (hc : isSpace c = false) : token s = .ok (some c, c :: t) := by
  rw [h.token_eq, Json.token_cons hc]

theorem Blanks.bind_token {α : Type} (h : Blanks s t)
    (next : Option Char → Reader α) : (token >>= next) s = (token >>= next) t := by
  change Except.bind (token s) (fun (c, s) ↦ next c s) = _
  rw [h.token_eq]
  rfl

theorem Blanks.length_le (h : Blanks s t) : t.length ≤ s.length := by
  induction h with
  | none t => exact Nat.le_refl _
  | blank _ _ ih => exact Nat.le_succ_of_le ih

theorem Blanks.length_lt {c : Char} (h : Blanks s (c :: t)) : t.length < s.length :=
  h.length_le

theorem remaining_eq (s : List Char) : remaining s = .ok (s.length, s) := rfl

theorem skip_cons (c : Char) (s : List Char) : skip (c :: s) = .ok ((), s) := rfl

theorem word_append (cs t : List Char) : word cs (cs ++ t) = .ok ((), t) := by
  induction cs with
  | nil => rfl
  | cons c cs ih =>
    change (if c ≠ c then throw .malformed >>= fun _ ↦ word cs else word cs : Reader Unit)
      (cs ++ t) = _
    rw [if_neg (fun hc ↦ hc rfl), ih]

theorem Escape.length_lt {d : Char} (h : Escape d s t) : t.length < s.length := by
  cases h <;> simp only [List.length_cons] <;> omega

theorem Spells.length_lt (h : Spells cs s t) : t.length < s.length := by
  induction h with
  | close t => exact Nat.lt_succ_self _
  | plain _ _ _ _ ih => exact Nat.lt_succ_of_lt ih
  | escaped he _ ih => exact Nat.lt_succ_of_lt (Nat.lt_trans ih he.length_lt)

theorem hexUnit_of_hexNumber? {a b c d : Char} {n : Nat} (hn : hexNumber? [a, b, c, d] = some n)
    (t : List Char) : hexUnit (a :: b :: c :: d :: t) = .ok (n, t) := by
  simp only [hexUnit, hn]

theorem escape_cons (c : Char) (s : List Char) : escape (c :: s) = (if c = 'u' then unicodeEscape
      else match simpleEscape? c with
        | some d => pure d
        | none => throw .malformed : Reader Char) s := rfl

theorem Escape.read {d : Char} (h : Escape d s t) : escape s = .ok (d, t) := by
  cases h with
  | letter t hu hd =>
    rw [escape_cons, if_neg hu, hd]
    rfl
  | unit t hn hl ht =>
    rw [escape_cons, if_pos rfl, unicodeEscape, Reader.bind_of_ok (hexUnit_of_hexNumber? hn t)]
    simp only [hl, ht]
    rfl
  | @pair a b c d a' b' c' d' n m t hn hm hl ht ht' =>
    rw [escape_cons, if_pos rfl, unicodeEscape, Reader.bind_of_ok (hexUnit_of_hexNumber? hn _)]
    have hword : word ['\\', 'u'] ('\\' :: 'u' :: a' :: b' :: c' :: d' :: t) = _ :=
      word_append ['\\', 'u'] (a' :: b' :: c' :: d' :: t)
    simp only [hl, ht, if_true, Bool.false_eq_true, if_false]
    rw [Reader.bind_of_ok hword, Reader.bind_of_ok (hexUnit_of_hexNumber? hm t)]
    simp only [ht']
    rfl

theorem stringRest_cons (fuel : Nat) (c : Char) (s : List Char) : stringRest (fuel + 1) (c :: s) =
      (if c = '"' then pure []
      else if c = '\\' then do return (← escape) :: (← stringRest fuel)
      else if c.toNat < 32 then throw .malformed
      else do return c :: (← stringRest fuel) : Reader (List Char)) s := rfl

theorem Spells.read (h : Spells cs s t) {fuel : Nat}
    (hf : s.length ≤ t.length + fuel) : stringRest fuel s = .ok (cs, t) := by
  induction h generalizing fuel with
  | close t =>
    obtain ⟨fuel, rfl⟩ := exists_succ_of_lt hf (Nat.lt_succ_self _)
    rfl
  | plain hq hb hc h ih =>
    obtain ⟨fuel, rfl⟩ := exists_succ_of_lt hf (Nat.lt_succ_of_lt h.length_lt)
    rw [stringRest_cons, if_neg hq, if_neg hb, if_neg (Nat.not_lt.mpr hc),
      Reader.bind_of_ok (ih (Nat.le_of_succ_le_succ hf))]
    rfl
  | escaped he h ih =>
    have hesc := he.length_lt
    have hrest := h.length_lt
    simp only [List.length_cons] at hf
    obtain ⟨fuel, rfl⟩ := exists_succ_of_lt hf (by omega)
    rw [stringRest_cons, if_neg (by decide), if_pos rfl, Reader.bind_of_ok he.read,
      Reader.bind_of_ok (ih (by omega))]
    rfl

theorem Spells.string_eq (h : Spells cs s t) : string s = .ok (String.ofList cs, t) := by
  have hread : stringRest (s.length + 1) s = .ok (cs, t) := h.read (by omega)
  change ((stringRest (s.length + 1) >>= fun cs ↦ pure (String.ofList cs)) : Reader String) s = _
  rw [Reader.bind_of_ok hread]
  rfl

theorem Closes.length_lt (h : Closes s t) : t.length < s.length := by
  induction h with
  | close t => exact Nat.lt_succ_self _
  | plain _ _ _ _ ih => exact Nat.lt_succ_of_lt ih
  | letter _ _ _ ih | unit _ _ ih =>
    simp only [List.length_cons]
    omega

theorem skipStringRest_cons (fuel : Nat) (c : Char) (s : List Char) :
    skipStringRest (fuel + 1) (c :: s) =
      (if c = '"' then pure ()
      else if c = '\\' then skipEscape >>= fun _ ↦ skipStringRest fuel
      else if c.toNat < 32 then throw .malformed
      else skipStringRest fuel : Reader Unit) s := rfl

theorem skipEscape_cons (c : Char) (s : List Char) :
    skipEscape (c :: s) = (if c = 'u' then discard hexUnit
      else if (simpleEscape? c).isNone then throw .malformed else pure () : Reader Unit) s := rfl

theorem skipEscape_letter {c d : Char} (hu : c ≠ 'u') (hd : simpleEscape? c = some d)
    (t : List Char) : skipEscape (c :: t) = .ok ((), t) := by
  rw [skipEscape_cons, if_neg hu, hd]
  rfl

theorem skipEscape_unit {a b c d : Char} {n : Nat} (hn : hexNumber? [a, b, c, d] = some n)
    (t : List Char) : skipEscape ('u' :: a :: b :: c :: d :: t) = .ok ((), t) := by
  rw [skipEscape_cons, if_pos rfl]
  change Except.map _ (hexUnit (a :: b :: c :: d :: t)) = _
  rw [hexUnit_of_hexNumber? hn]
  rfl

theorem Closes.read (h : Closes s t) {fuel : Nat}
    (hf : s.length ≤ t.length + fuel) : skipStringRest fuel s = .ok ((), t) := by
  induction h generalizing fuel with
  | close t =>
    obtain ⟨fuel, rfl⟩ := exists_succ_of_lt hf (Nat.lt_succ_self _)
    rfl
  | plain hq hb hc h ih =>
    obtain ⟨fuel, rfl⟩ := exists_succ_of_lt hf (Nat.lt_succ_of_lt h.length_lt)
    rw [skipStringRest_cons, if_neg hq, if_neg hb, if_neg (Nat.not_lt.mpr hc)]
    exact ih (Nat.le_of_succ_le_succ hf)
  | letter hu hd h ih =>
    have hrest := h.length_lt
    simp only [List.length_cons] at hf
    obtain ⟨fuel, rfl⟩ := exists_succ_of_lt hf (by omega)
    rw [skipStringRest_cons, if_neg (by decide), if_pos rfl,
      Reader.bind_of_ok (skipEscape_letter hu hd _)]
    exact ih (by omega)
  | unit hn h ih =>
    have hrest := h.length_lt
    simp only [List.length_cons] at hf
    obtain ⟨fuel, rfl⟩ := exists_succ_of_lt hf (by omega)
    rw [skipStringRest_cons, if_neg (by decide), if_pos rfl,
      Reader.bind_of_ok (skipEscape_unit hn _)]
    exact ih (by omega)

theorem Closes.skipString_eq (h : Closes s t) : skipString s = .ok ((), t) :=
  h.read (Nat.le_add_left_of_le (Nat.le_succ _))

theorem Digits.takeWhile_eq (h : Digits ds s t) : s.takeWhile Char.isDigit = ds := by
  rw [h.text_eq, List.takeWhile_append_of_pos h.isDigit]
  cases t with
  | nil => simp
  | cons c t => simp [h.ends c rfl]

theorem Digits.dropWhile_eq (h : Digits ds s t) : s.dropWhile Char.isDigit = t := by
  rw [h.text_eq, List.dropWhile_append_of_pos h.isDigit]
  cases t with
  | nil => simp
  | cons c t => simp [h.ends c rfl]

theorem Digits.digitRun_eq (h : Digits ds s t) :
    digitRun s = .ok (ds.map fun c ↦ c.toNat - '0'.toNat, t) := by
  rw [digitRun, h.takeWhile_eq, h.dropWhile_eq]

theorem Digits.isDigit_head? (h : Digits ds s t) : s.head?.any Char.isDigit = true := by
  obtain ⟨c, ds, rfl⟩ := List.exists_cons_of_ne_nil h.ne_nil
  simp [h.text_eq, h.isDigit c]

theorem Digits.length_lt (h : Digits ds s t) : t.length < s.length := by
  have hne := List.length_pos_iff.mpr h.ne_nil
  rw [h.text_eq, List.length_append]
  omega

theorem Digits.skip (h : Digits ds s t) : skipDigits s = .ok ((), t) := by
  rw [skipDigits, Reader.bind_of_ok h.digitRun_eq, List.isEmpty_map, if_neg]
  · rfl
  · simpa using h.ne_nil

theorem digitValue_ne_zero {c : Char} (hc : c.isDigit = true) (hne : c ≠ '0') :
    c.toNat - '0'.toNat ≠ 0 := by
  simp only [Char.isDigit, Bool.and_eq_true, decide_eq_true_eq, ge_iff_le,
    UInt32.le_iff_toNat_le] at hc
  intro hzero
  have hle := Nat.sub_eq_zero_iff_le.mp hzero
  exact hne (Char.ext (UInt32.toNat_inj.mp (Nat.le_antisymm hle hc.1)))

theorem Digits.values (h : Digits ds s t) (hzero : ds.head? = some '0' → ds = ['0']) :
    (∃ v, (ds.map fun c ↦ c.toNat - '0'.toNat) = [v]) ∨
      ∃ k v vs, (ds.map fun c ↦ c.toNat - '0'.toNat) = (k + 1) :: v :: vs := by
  match ds, h.ne_nil with
  | [c], _ => exact .inl ⟨_, rfl⟩
  | c :: d :: ds, _ =>
    have hne : c ≠ '0' := by
      rintro rfl
      simpa using hzero rfl
    obtain ⟨k, hk⟩ := Nat.exists_eq_succ_of_ne_zero
      (digitValue_ne_zero (h.isDigit c (List.mem_cons_self ..)) hne)
    exact .inr ⟨k, _, _, by rw [List.map_cons, hk]; rfl⟩

def skipExponent : Reader Unit := do
  if isExponentMark (← peek) then
    skip
    let sign ← peek
    if sign = some '+' ∨ sign = some '-' then skip
    skipDigits

def skipFraction : Reader Unit := do
  if (← peek) = some '.' then
    skip
    skipDigits
  skipExponent

theorem skipNumber_of_digits (h : Digits ds s t)
    (hzero : ds.head? = some '0' → ds = ['0']) : skipNumber s = skipFraction t := by
  rw [skipNumber, Reader.bind_of_ok h.digitRun_eq]
  obtain ⟨v, hv⟩ | ⟨k, v, vs, hv⟩ := h.values hzero
  · rw [hv]
    cases v <;> rfl
  · rw [hv]
    rfl

theorem Fraction.skip (h : Fraction s t) : skipFraction s = skipExponent t := by
  cases h with
  | none hpoint =>
    change (if s.head? = some '.' then _ else skipExponent : Reader Unit) s = _
    rw [if_neg hpoint]
  | @digits ds s t h =>
    change (skipDigits >>= fun _ ↦ skipExponent) s = _
    rw [Reader.bind_of_ok h.skip]

theorem Exponent.skip (h : Exponent s t) : skipExponent s = .ok ((), t) := by
  cases h with
  | none hmark =>
    change (if isExponentMark s.head? then _ else pure () : Reader Unit) s = _
    rw [hmark]
    rfl
  | @unsigned mark ds s t hmark h =>
    have hsign : ¬(s.head? = some '+' ∨ s.head? = some '-') := by
      intro hs
      have hdigit := h.isDigit_head?
      rcases hs with hs | hs <;> simp [hs] at hdigit
    change (if isExponentMark (some mark) then _ else pure () : Reader Unit) (mark :: s) = _
    rw [hmark]
    change (if s.head? = some '+' ∨ s.head? = some '-' then _ else skipDigits : Reader Unit) s = _
    rw [if_neg hsign, h.skip]
  | @signed mark sign ds s t hmark hsign h =>
    change (if isExponentMark (some mark) then _ else pure () : Reader Unit) (mark :: sign :: s) = _
    rw [hmark]
    change (if some sign = some '+' ∨ some sign = some '-' then Json.skip >>= fun _ ↦ skipDigits
      else skipDigits : Reader Unit) (sign :: s) = _
    rw [if_pos (by simpa using hsign)]
    exact h.skip

theorem Numeral.skip (h : Numeral s t) : skipNumber s = .ok ((), t) := by
  obtain ⟨hd, hzero, hf, he⟩ := h
  rw [skipNumber_of_digits hd hzero, hf.skip, he.skip]

theorem Fraction.length_le (h : Fraction s t) : t.length ≤ s.length := by
  cases h with
  | none => exact Nat.le_refl _
  | digits h => exact Nat.le_succ_of_le (Nat.le_of_lt h.length_lt)

theorem Exponent.length_le (h : Exponent s t) : t.length ≤ s.length := by
  cases h with
  | none => exact Nat.le_refl _
  | unsigned _ h | signed _ _ h =>
    have := h.length_lt
    simp only [List.length_cons]
    omega

theorem Numeral.length_lt (h : Numeral s t) : t.length < s.length := by
  obtain ⟨hd, -, hf, he⟩ := h
  exact Nat.lt_of_le_of_lt he.length_le (Nat.lt_of_le_of_lt hf.length_le hd.length_lt)

theorem Numeral.exists_cons (h : Numeral s t) : ∃ c s', s = c :: s' ∧ c.isDigit = true := by
  obtain ⟨hd, -, -, -⟩ := h
  obtain ⟨c, ds, rfl⟩ := List.exists_cons_of_ne_nil hd.ne_nil
  exact ⟨c, _, hd.text_eq, hd.isDigit c (List.mem_cons_self ..)⟩

theorem Named.length_lt (h : Named s t) : t.length < s.length := by
  obtain ⟨hn, hc, hb⟩ := h
  exact Nat.lt_of_le_of_lt hb.length_le (Nat.lt_trans hc.length_lt hn.length_lt)

theorem Derives.length_lt {form : Form} (h : Derives form s t) : t.length < s.length := by
  induction h with
  | wordNull t | wordTrue t | wordFalse t =>
    rw [List.length_append]
    exact Nat.lt_add_of_pos_left (by decide)
  | number h => exact h.length_lt
  | negative h => exact Nat.lt_succ_of_lt h.length_lt
  | string h => exact Nat.lt_succ_of_lt h.length_lt
  | emptyArray hb | emptyObject hb => exact Nat.lt_succ_of_lt hb.length_lt
  | lastElement hb | lastMember hb => exact hb.length_lt
  | array hb _ _ ihv ihr =>
    exact Nat.lt_succ_of_lt (Nat.lt_of_lt_of_le (Nat.lt_trans ihr ihv) hb.length_le)
  | object hb hn _ _ ihv ihr =>
    exact Nat.lt_succ_of_lt
      (Nat.lt_trans (Nat.lt_trans ihr ihv) (Nat.lt_trans hn.length_lt hb.length_lt))
  | nextElement hc hb _ _ ihv ihr =>
    exact Nat.lt_trans (Nat.lt_of_lt_of_le (Nat.lt_trans ihr ihv) hb.length_le) hc.length_lt
  | nextMember hc hb hn _ _ ihv ihr =>
    exact Nat.lt_trans (Nat.lt_trans (Nat.lt_trans ihr ihv) hn.length_lt)
      (Nat.lt_trans hb.length_lt hc.length_lt)

theorem ne_of_isDigit {c d : Char} (hc : c.isDigit = true) (hd : d.isDigit = false) : c ≠ d := by
  rintro rfl
  simp [hc] at hd

theorem isSpace_of_isDigit {c : Char} (hc : c.isDigit = true) : isSpace c = false := by
  rw [Bool.eq_false_iff]
  intro hs
  simp only [isSpace, Bool.or_eq_true, decide_eq_true_eq, or_assoc] at hs
  rcases hs with rfl | rfl | rfl | rfl <;> exact absurd hc (by decide)

theorem Derives.exists_cons (h : Derives .value s t) :
    ∃ c s', s = c :: s' ∧ isSpace c = false ∧ c ≠ ']' := by
  cases h with
  | number h =>
    obtain ⟨c, s', rfl, hc⟩ := h.exists_cons
    exact ⟨c, s', rfl, isSpace_of_isDigit hc, ne_of_isDigit hc (by decide)⟩
  | _ => exact ⟨_, _, rfl, by decide, by decide⟩

theorem skipValue_cons (fuel : Nat) {c : Char} (hc : isSpace c = false) (s : List Char) :
    skipValue (fuel + 1) (c :: s) =
      (if c = '[' then skip >>= fun _ ↦ skipElements fuel true
      else if c = '{' then skip >>= fun _ ↦ skipMembers fuel true
      else if c = 'n' then word "null".toList
      else if c = 't' then word "true".toList
      else if c = 'f' then word "false".toList
      else if c = '"' then skip >>= fun _ ↦ skipString
      else if c = '-' then skip >>= fun _ ↦ skipNumber
      else if c.isDigit then skipNumber
      else throw .malformed : Reader Unit) (c :: s) := by
  rw [skipValue, Reader.bind_of_ok (token_cons hc s)]

theorem skipValue_digit (fuel : Nat) {c : Char} (hc : c.isDigit = true) (s : List Char) :
    skipValue (fuel + 1) (c :: s) = skipNumber (c :: s) := by
  have hne (d : Char) (hd : d.isDigit = false) : c ≠ d := ne_of_isDigit hc hd
  rw [skipValue_cons fuel (isSpace_of_isDigit hc), if_neg (hne '[' (by decide)),
    if_neg (hne '{' (by decide)), if_neg (hne 'n' (by decide)), if_neg (hne 't' (by decide)),
    if_neg (hne 'f' (by decide)), if_neg (hne '"' (by decide)), if_neg (hne '-' (by decide)),
    if_pos hc]

theorem skipValue_blanks (h : Blanks s t) (fuel : Nat) : skipValue fuel s = skipValue fuel t := by
  cases fuel with
  | zero => rfl
  | succ fuel =>
    rw [skipValue]
    exact h.bind_token _

theorem skipElements_succ (fuel : Nat) (first : Bool) : skipElements (fuel + 1) first = (do
      if ← nextElement first then
        skipValue fuel
        skipElements fuel false
      else skip) := rfl

theorem skipMembers_succ (fuel : Nat) (first : Bool) : skipMembers (fuel + 1) first = (do
      if ← nextMember first then
        skipString
        colon
        skipValue fuel
        skipMembers fuel false
      else skip) := rfl

theorem nextElement_close (h : Blanks s (']' :: t)) (first : Bool) :
    nextElement first s = .ok (false, ']' :: t) := by
  rw [nextElement, Reader.bind_of_ok (h.token_cons (by decide))]
  rfl

theorem nextElement_first (hb : Blanks s s₁) (h : Derives .value s₁ t) :
    nextElement true s = .ok (true, s₁) := by
  -- The end of a list is another bracket, which `hclose` rules out.
  obtain ⟨c, s', rfl, hspace, hclose⟩ := h.exists_cons
  rw [nextElement, Reader.bind_of_ok (hb.token_cons hspace)]
  simp only [if_true]
  rfl

theorem nextElement_comma (hc : Blanks s (',' :: s₁)) (hb : Blanks s₁ s₂)
    (h : Derives .value s₂ t) : nextElement false s = .ok (true, s₂) := by
  obtain ⟨c, s', rfl, hspace, hclose⟩ := h.exists_cons
  have hcomma : ',' ≠ ']' := by decide
  rw [nextElement, Reader.bind_of_ok (hc.token_cons (by decide))]
  simp only [ne_eq, not_true_eq_false, Bool.false_eq_true, if_false]
  rw [Reader.bind_of_ok (skip_cons _ _), Reader.bind_of_ok (hb.token_cons hspace)]
  simp only
  rfl

theorem nextMember_close (h : Blanks s ('}' :: t)) (first : Bool) :
    nextMember first s = .ok (false, '}' :: t) := by
  rw [nextMember, Reader.bind_of_ok (h.token_cons (by decide))]
  rfl

theorem nextMember_first (h : Blanks s ('"' :: t)) : nextMember true s = .ok (true, t) := by
  rw [nextMember, Reader.bind_of_ok (h.token_cons (by decide))]
  rfl

theorem nextMember_comma (hc : Blanks s (',' :: s₁))
    (hb : Blanks s₁ ('"' :: t)) : nextMember false s = .ok (true, t) := by
  have hcomma : ',' ≠ '}' := by decide
  rw [nextMember, Reader.bind_of_ok (hc.token_cons (by decide))]
  simp only [ne_eq, not_true_eq_false, Bool.false_eq_true, if_false]
  rw [Reader.bind_of_ok (skip_cons _ _), Reader.bind_of_ok (hb.token_cons (by decide))]
  rfl

theorem colon_of_blanks (h : Blanks s (':' :: t)) : colon s = .ok ((), t) := by
  rw [colon, Reader.bind_of_ok (h.token_cons (by decide))]
  rfl

theorem close_cons {c : Char} (hc : isSpace c = false) (t : List Char) :
    close c (c :: t) = .ok ((), t) := by
  rw [close, Reader.bind_of_ok (token_cons hc t)]
  simp only [ne_eq, not_true_eq_false, if_false]
  rfl

def Form.skip : Form → Nat → Reader Unit
  | value, fuel => skipValue fuel
  | elements, fuel => skipElements fuel false
  | members, fuel => skipMembers fuel false

theorem skipElements_of_value {fuel : Nat} {first : Bool}
    (hnext : nextElement first s = .ok (true, s₁)) (hv : skipValue fuel s₁ = .ok ((), s₂)) :
    skipElements (fuel + 1) first s = skipElements fuel false s₂ := by
  rw [skipElements_succ, Reader.bind_of_ok hnext, if_pos rfl, Reader.bind_of_ok hv]

theorem skipElements_close {fuel : Nat} {first : Bool} (h : Blanks s (']' :: t)) :
    skipElements (fuel + 1) first s = .ok ((), t) := by
  rw [skipElements_succ, Reader.bind_of_ok (nextElement_close h first)]
  rfl

theorem skipMembers_of_member {fuel : Nat} {first : Bool}
    (hnext : nextMember first s = .ok (true, s₁)) (hn : Named s₁ s₂)
    (hv : skipValue fuel s₂ = .ok ((), s₃)) :
    skipMembers (fuel + 1) first s = skipMembers fuel false s₃ := by
  obtain ⟨hname, hcolon, hb⟩ := hn
  rw [skipMembers_succ, Reader.bind_of_ok hnext, if_pos rfl, Reader.bind_of_ok hname.skipString_eq,
    Reader.bind_of_ok (colon_of_blanks hcolon),
    Reader.bind_of_ok ((skipValue_blanks hb fuel).trans hv)]

theorem skipMembers_close {fuel : Nat} {first : Bool} (h : Blanks s ('}' :: t)) :
    skipMembers (fuel + 1) first s = .ok ((), t) := by
  rw [skipMembers_succ, Reader.bind_of_ok (nextMember_close h first)]
  rfl

/-- Fuel is spent on brackets and on elements, which are no more than the characters taken. -/
theorem Derives.skip {form : Form} (h : Derives form s t) {fuel : Nat}
    (hf : s.length ≤ t.length + fuel) : form.skip fuel s = .ok ((), t) := by
  induction h generalizing fuel with
  | wordNull t =>
    obtain ⟨fuel, rfl⟩ := exists_succ_of_lt hf (Derives.wordNull t).length_lt
    exact (skipValue_cons fuel (by decide) _).trans (word_append "null".toList t)
  | wordTrue t =>
    obtain ⟨fuel, rfl⟩ := exists_succ_of_lt hf (Derives.wordTrue t).length_lt
    exact (skipValue_cons fuel (by decide) _).trans (word_append "true".toList t)
  | wordFalse t =>
    obtain ⟨fuel, rfl⟩ := exists_succ_of_lt hf (Derives.wordFalse t).length_lt
    exact (skipValue_cons fuel (by decide) _).trans (word_append "false".toList t)
  | number h =>
    obtain ⟨fuel, rfl⟩ := exists_succ_of_lt hf h.length_lt
    obtain ⟨c, s', rfl, hc⟩ := h.exists_cons
    exact (skipValue_digit fuel hc s').trans h.skip
  | negative h =>
    obtain ⟨fuel, rfl⟩ := exists_succ_of_lt hf (Derives.negative h).length_lt
    exact (skipValue_cons fuel (by decide) _).trans h.skip
  | string h =>
    obtain ⟨fuel, rfl⟩ := exists_succ_of_lt hf (Derives.string h).length_lt
    exact (skipValue_cons fuel (by decide) _).trans h.skipString_eq
  | emptyArray hb =>
    have hlt := hb.length_lt
    simp only [List.length_cons] at hf
    obtain ⟨fuel, rfl⟩ : ∃ n, fuel = n + 2 := ⟨fuel - 2, by omega⟩
    exact (skipValue_cons _ (by decide) _).trans (skipElements_close hb)
  | array hb hv hr ihv ihr =>
    have hle := hb.length_le
    have hvalue := hv.length_lt
    have hrest := hr.length_lt
    simp only [List.length_cons] at hf
    obtain ⟨fuel, rfl⟩ : ∃ n, fuel = n + 2 := ⟨fuel - 2, by omega⟩
    exact (skipValue_cons _ (by decide) _).trans
      ((skipElements_of_value (nextElement_first hb hv) (ihv (by omega))).trans (ihr (by omega)))
  | emptyObject hb =>
    have hlt := hb.length_lt
    simp only [List.length_cons] at hf
    obtain ⟨fuel, rfl⟩ : ∃ n, fuel = n + 2 := ⟨fuel - 2, by omega⟩
    exact (skipValue_cons _ (by decide) _).trans (skipMembers_close hb)
  | object hb hn hv hr ihv ihr =>
    have hname := Nat.lt_trans hn.length_lt hb.length_lt
    have hvalue := hv.length_lt
    have hrest := hr.length_lt
    simp only [List.length_cons] at hf
    obtain ⟨fuel, rfl⟩ : ∃ n, fuel = n + 2 := ⟨fuel - 2, by omega⟩
    exact (skipValue_cons _ (by decide) _).trans
      ((skipMembers_of_member (nextMember_first hb) hn (ihv (by omega))).trans (ihr (by omega)))
  | lastElement hb =>
    obtain ⟨fuel, rfl⟩ := exists_succ_of_lt hf hb.length_lt
    exact skipElements_close hb
  | nextElement hc hb hv hr ihv ihr =>
    have hle := Nat.lt_of_le_of_lt hb.length_le hc.length_lt
    have hvalue := hv.length_lt
    have hrest := hr.length_lt
    obtain ⟨fuel, rfl⟩ := exists_succ_of_lt hf (by omega)
    exact (skipElements_of_value (nextElement_comma hc hb hv) (ihv (by omega))).trans
      (ihr (by omega))
  | lastMember hb =>
    obtain ⟨fuel, rfl⟩ := exists_succ_of_lt hf hb.length_lt
    exact skipMembers_close hb
  | nextMember hc hb hn hv hr ihv ihr =>
    have hname := Nat.lt_trans hn.length_lt (Nat.lt_trans hb.length_lt hc.length_lt)
    have hvalue := hv.length_lt
    have hrest := hr.length_lt
    obtain ⟨fuel, rfl⟩ := exists_succ_of_lt hf (by omega)
    exact (skipMembers_of_member (nextMember_comma hc hb) hn (ihv (by omega))).trans
      (ihr (by omega))

theorem Derives.skipValue_eq (h : Derives .value s t) {fuel : Nat}
    (hf : s.length ≤ t.length + fuel) : skipValue fuel s = .ok ((), t) :=
  h.skip hf

theorem Reader.run_of_ok {α : Type} {reader : Reader α} {text : String} {a : α}
    (h : reader text.toList = .ok (a, t)) (hend : Blanks t []) : reader.run text = .ok a := by
  have htoken : token t = .ok (none, []) := hend.token_eq
  have hall : (do
      let a ← reader
      if (← token).isSome then throw .malformed
      return a : Reader α) text.toList = .ok (a, []) := by
    rw [Reader.bind_of_ok h, Reader.bind_of_ok htoken]
    rfl
  exact congrArg (Except.map Prod.fst) hall

end ScreenCapture.Json

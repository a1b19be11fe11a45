import ScreenCapture.Proofs.Spelling
import Mathlib.Data.List.TakeWhile

namespace ScreenCapture

namespace Numeral

/-- The characters are decimal digits, at least one, and give the number `n`. -/
def Writes (cs : List Char) (n : Nat) : Prop :=
  cs ≠ [] ∧ (∀ c ∈ cs, c.isDigit = true) ∧ Nat.ofDigitChars 10 cs 0 = n

/-- A numeral without a sign, or with a plus sign in front. -/
inductive Unsigned : List Char → Nat → Prop
  | bare {cs : List Char} {n : Nat} : Writes cs n → Unsigned cs n
  | plus {cs : List Char} {n : Nat} : Writes cs n → Unsigned ('+' :: cs) n

variable {limit n : Nat} {cs : List Char}

theorem readDigits_eq_ok_iff {v : Nat} (hv : v ≤ limit) : readDigits limit v cs = .ok n ↔
    (∀ c ∈ cs, c.isDigit = true) ∧ Nat.ofDigitChars 10 cs v = n ∧ n ≤ limit := by
  constructor
  · intro hread
    induction cs generalizing v with
    | nil =>
      cases hread
      exact ⟨List.forall_mem_nil _, rfl, hv⟩
    | cons c cs ih =>
      rw [readDigits, digit?] at hread
      by_cases hc : c.isDigit = true
      · rw [if_pos hc] at hread
        by_cases hnext : limit < v * 10 + (c.toNat - '0'.toNat)
        · simp only [if_pos hnext] at hread
          cases hread
        · simp only [if_neg hnext] at hread
          obtain ⟨hdigits, hvalue, hle⟩ := ih (Nat.not_lt.mp hnext) hread
          refine ⟨List.forall_mem_cons.mpr ⟨hc, hdigits⟩, ?_, hle⟩
          rwa [Nat.ofDigitChars_cons, Nat.mul_comm]
      · rw [if_neg hc] at hread
        cases hread
  · rintro ⟨hdigits, rfl, hle⟩
    exact readDigits_eq hdigits hle

theorem readMagnitude_eq_ok_iff : readMagnitude limit cs = .ok n ↔ Writes cs n ∧ n ≤ limit := by
  unfold readMagnitude
  cases cs with
  | nil => simp [Writes]
  | cons c cs =>
    rw [if_neg (by simp), readDigits_eq_ok_iff (Nat.zero_le limit), Writes]
    simp [and_assoc]

theorem Writes.head_ne {c : Char} (hw : Writes (c :: cs) n) : c ≠ '+' := by
  rintro rfl
  exact absurd (hw.2.1 '+' List.mem_cons_self) (by decide)

theorem readNat_eq_ok_iff : readNat limit cs = .ok n ↔ Unsigned cs n ∧ n ≤ limit := by
  unfold readNat
  split
  · simp only [reduceCtorEq, false_iff, not_and]
    rintro (⟨hempty, -⟩ | _)
    exact absurd rfl hempty
  · next cs =>
    rw [readMagnitude_eq_ok_iff]
    refine and_congr_left fun _ ↦ ⟨.plus, fun hu ↦ ?_⟩
    cases hu with
    | bare hw => exact absurd rfl hw.head_ne
    | plus hw => exact hw
  · next hplus =>
    rw [readMagnitude_eq_ok_iff]
    refine and_congr_left fun _ ↦ ⟨.bare, fun hu ↦ ?_⟩
    cases hu with
    | bare hw => exact hw
    | plus hw => exact absurd rfl (hplus _)

theorem Writes.exists_digit (hw : Writes cs n) : ∃ c ∈ cs, c.isDigit = true := by
  obtain ⟨c, hc⟩ := List.exists_mem_of_ne_nil cs hw.1
  exact ⟨c, hc, hw.2.1 c hc⟩

theorem Unsigned.exists_digit (hu : Unsigned cs n) : ∃ c ∈ cs, c.isDigit = true := by
  cases hu with
  | bare hw => exact hw.exists_digit
  | plus hw =>
    obtain ⟨c, hc, hdigit⟩ := hw.exists_digit
    exact ⟨c, List.mem_cons_of_mem '+' hc, hdigit⟩

theorem Unsigned.ne_nil (hu : Unsigned cs n) : cs ≠ [] := by
  obtain ⟨c, hc, -⟩ := hu.exists_digit
  exact List.ne_nil_of_mem hc

theorem Unsigned.mem (hu : Unsigned cs n) {c : Char} (hc : c ∈ cs) :
    c.isDigit = true ∨ c = '+' := by
  cases hu with
  | bare hw => exact .inl (hw.2.1 c hc)
  | plus hw =>
    rcases List.mem_cons.mp hc with rfl | hc
    · exact .inr rfl
    · exact .inl (hw.2.1 c hc)

theorem Unsigned.eq (hu : Unsigned cs n) {m : Nat} (hu' : Unsigned cs m) : n = m := by
  cases hu with
  | bare hw =>
    cases hu' with
    | bare hw' => exact hw.2.2.symm.trans hw'.2.2
    | plus => exact absurd rfl hw.head_ne
  | plus hw =>
    cases hu' with
    | bare hw' => exact absurd rfl hw'.head_ne
    | plus hw' => exact hw.2.2.symm.trans hw'.2.2

theorem Unsigned.toOption_readNat (hu : Unsigned cs n) :
    (readNat limit cs).toOption = if n ≤ limit then some n else none := by
  split
  · next hle => rw [readNat_eq_ok_iff.mpr ⟨hu, hle⟩, Except.toOption]
  · next hle =>
    rcases hread : readNat limit cs with fault | m
    · rfl
    · obtain ⟨hu', hle'⟩ := readNat_eq_ok_iff.mp hread
      exact absurd (hu.eq hu' ▸ hle') hle

theorem toOption_readNat_eq_some_iff :
    (readNat limit cs).toOption = some n ↔ Unsigned cs n ∧ n ≤ limit := by
  rw [← readNat_eq_ok_iff]
  cases readNat limit cs <;> simp [Except.toOption]

end Numeral

namespace Text

/-- `t` is what is left of `s` without the blanks at its two ends. -/
structure Trimmed (s t : List Char) : Prop where
  between : ∃ front back, s = front ++ t ++ back ∧
    (∀ c ∈ front, isBlank c = true) ∧ ∀ c ∈ back, isBlank c = true
  head_eq : ∀ c ∈ t.head?, isBlank c = false
  last_eq : ∀ c ∈ t.getLast?, isBlank c = false

variable {p : Char → Bool} {s t a b : List Char}

theorem dropWhile_append_of_head (hs : ∀ c ∈ s, p c = true) (ht : ∀ c ∈ t.head?, p c = false) :
    (s ++ t).dropWhile p = t := by
  rw [List.dropWhile_append_of_pos hs]
  cases t with
  | nil => rfl
  | cons c t => rw [List.dropWhile_cons, if_neg (Bool.eq_false_iff.mp (ht c rfl))]

theorem head?_dropWhile (s : List Char) : ∀ c ∈ (s.dropWhile p).head?, p c = false := by
  intro c hc
  have hnot := List.head?_dropWhile_not p s
  rw [Option.mem_def.mp hc] at hnot
  simpa using hnot

theorem Trimmed.trim_eq (ht : Trimmed s t) : trim s = t := by
  obtain ⟨⟨front, back, rfl, hfront, hback⟩, hhead, hlast⟩ := ht
  have hreverse : ∀ c ∈ back.reverse, isBlank c = true :=
    fun c hc ↦ hback c (List.mem_reverse.mp hc)
  cases t with
  | nil =>
    have hblank : (front ++ [] ++ back).dropWhile isBlank = [] := by
      rw [List.append_nil, List.dropWhile_append_of_pos hfront]
      exact List.dropWhile_eq_nil_iff.mpr hback
    rw [trim, hblank]
    rfl
  | cons c t =>
    have hfirst : (front ++ c :: t ++ back).dropWhile isBlank = c :: t ++ back := by
      rw [List.append_assoc]
      exact dropWhile_append_of_head hfront hhead
    rw [trim, hfirst, List.reverse_append,
      dropWhile_append_of_head hreverse (by rwa [List.head?_reverse]), List.reverse_reverse]

theorem trim_eq_iff : trim s = t ↔ Trimmed s t := by
  refine ⟨?_, Trimmed.trim_eq⟩
  rintro rfl
  have hfront : s = s.takeWhile isBlank ++ s.dropWhile isBlank :=
    List.takeWhile_append_dropWhile.symm
  -- the second scan goes from the end of what the first one leaves
  have hback : s.dropWhile isBlank = trim s ++
      ((s.dropWhile isBlank).reverse.takeWhile isBlank).reverse := by
    rw [trim, ← List.reverse_append, List.takeWhile_append_dropWhile, List.reverse_reverse]
  refine ⟨⟨s.takeWhile isBlank, ((s.dropWhile isBlank).reverse.takeWhile isBlank).reverse, ?_,
    fun c ↦ List.mem_takeWhile_imp, fun c hc ↦ List.mem_takeWhile_imp (List.mem_reverse.mp hc)⟩,
    fun c hc ↦ ?_, fun c hc ↦ ?_⟩
  · rw [List.append_assoc, ← hback, ← hfront]
  · refine head?_dropWhile s c ?_
    rw [hback, List.head?_append, Option.mem_def.mp hc]
    rfl
  · rw [trim, List.getLast?_reverse] at hc
    exact head?_dropWhile _ c hc

theorem exists_trimmed_iff {P : List Char → Prop} : (∃ t, Trimmed s t ∧ P t) ↔ P (trim s) := by
  constructor
  · rintro ⟨t, ht, hp⟩
    rwa [ht.trim_eq]
  · intro hp
    exact ⟨_, trim_eq_iff.mp rfl, hp⟩

theorem cut?_eq_some_iff : cut? p s = some (a, b) ↔
    ∃ c, s = a ++ c :: b ∧ p c = true ∧ ∀ d ∈ a, p d = false := by
  constructor
  · intro hcut
    induction s generalizing a with
    | nil => cases hcut
    | cons c s ih =>
      rw [cut?] at hcut
      split at hcut
      · next hc =>
        cases hcut
        exact ⟨c, rfl, hc, List.forall_mem_nil _⟩
      · next hc =>
        obtain ⟨⟨a', b'⟩, hrest, heq⟩ := Option.map_eq_some_iff.mp hcut
        cases heq
        obtain ⟨d, rfl, hd, hbefore⟩ := ih hrest
        exact ⟨d, rfl, hd, List.forall_mem_cons.mpr ⟨Bool.eq_false_iff.mpr hc, hbefore⟩⟩
  · rintro ⟨c, rfl, hc, hbefore⟩
    exact cut?_append hbefore hc b

theorem lookup_eq_some_iff_mem {α : Type} {names : List (String × α)} {name : String} {value : α}
    (hn : (names.map Prod.fst).Nodup) : names.lookup name = some value ↔ (name, value) ∈ names := by
  rw [List.lookup_eq_some_iff]
  constructor
  · rintro ⟨before, after, rfl, -⟩
    simp
  · intro hmem
    obtain ⟨before, after, rfl⟩ := List.append_of_mem hmem
    refine ⟨before, after, rfl, fun entry hentry ↦ bne_iff_ne.mpr fun heq ↦ ?_⟩
    rw [List.map_append, List.map_cons, List.nodup_append] at hn
    exact hn.2.2 entry.1 (List.mem_map_of_mem hentry) name List.mem_cons_self heq.symm

end Text

end ScreenCapture

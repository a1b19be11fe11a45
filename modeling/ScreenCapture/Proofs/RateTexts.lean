import ScreenCapture.Proofs.TextParts
import Mathlib.Data.Option.Basic

namespace ScreenCapture

open Text Numeral

namespace FrameRate

variable {rate : FrameRate} {num den : Nat} {t : List Char}

def Equals (rate : FrameRate) (num den : Nat) : Prop := 0 < den ∧ rate.num * den = num * rate.den

theorem Equals.exists_eq (he : rate.Equals num den) :
    ∃ k, 0 < k ∧ num = rate.num * k ∧ den = rate.den * k := by
  obtain ⟨hden, hcross⟩ := he
  have hdvd : rate.num ∣ num :=
    Nat.Coprime.dvd_of_dvd_mul_right rate.coprime (hcross ▸ Nat.dvd_mul_right rate.num den)
  obtain ⟨k, rfl⟩ := hdvd
  rw [Nat.mul_assoc, Nat.mul_comm k] at hcross
  obtain rfl : den = rate.den * k := Nat.eq_of_mul_eq_mul_left rate.num_pos hcross
  exact ⟨k, Nat.pos_of_mul_pos_left hden, rfl, rfl⟩

theorem Equals.num_pos (he : rate.Equals num den) : 0 < num := by
  obtain ⟨k, hk, rfl, -⟩ := he.exists_eq
  exact Nat.mul_pos rate.num_pos hk

theorem Equals.lowest (he : rate.Equals num den) :
    num / num.gcd den = rate.num ∧ den / num.gcd den = rate.den := by
  obtain ⟨k, hk, rfl, rfl⟩ := he.exists_eq
  rw [Nat.gcd_mul_right, rate.coprime, Nat.one_mul]
  exact ⟨Nat.mul_div_cancel _ hk, Nat.mul_div_cancel _ hk⟩

theorem Equals.congr {num' den' : Nat} (hden : 0 < den) (hden' : 0 < den')
    (hcross : num * den' = num' * den) : rate.Equals num den ↔ rate.Equals num' den' := by
  have hmul (a b c d : Nat) (hb : 0 < b) (hd : 0 < d) (habcd : a * d = c * b)
      (he : rate.num * b = a * rate.den) : rate.num * d = c * rate.den := by
    refine Nat.eq_of_mul_eq_mul_right hb ?_
    calc rate.num * d * b = a * rate.den * d := by rw [Nat.mul_right_comm, he]
      _ = c * rate.den * b := by rw [Nat.mul_right_comm, habcd, Nat.mul_right_comm]
  exact ⟨fun he ↦ ⟨hden', hmul _ _ _ _ hden hden' hcross he.2⟩,
    fun he ↦ ⟨hden, hmul _ _ _ _ hden' hden hcross.symm he.2⟩⟩

theorem ofFraction?_eq_some_iff : ofFraction? num den = some rate ↔ rate.Equals num den := by
  constructor
  · intro hrate
    rw [ofFraction?] at hrate
    split at hrate
    · next hbounds =>
      cases hrate
      refine ⟨hbounds.1.2, ?_⟩
      change num / num.gcd den * den = num * (den / num.gcd den)
      rw [Nat.div_mul_right_comm (Nat.gcd_dvd_left num den),
        Nat.mul_div_assoc num (Nat.gcd_dvd_right num den)]
    · cases hrate
  · intro he
    obtain ⟨hnum, hden⟩ := he.lowest
    rw [ofFraction?, dif_pos ⟨⟨he.num_pos, he.1⟩, hnum ▸ rate.num_lt, hden ▸ rate.den_lt⟩]
    exact congrArg some (FrameRate.ext hnum hden)

/-- The fraction that a text without blanks at its ends denotes, as far as it is written out in one
of the four forms. Only the terms of a ratio and a whole number have to be short themselves. -/
inductive Denotes : List Char → Nat → Nat → Prop
  | name {t : List Char} {name : String} {rate : FrameRate} : (name, rate) ∈ names →
    t.map Char.toLower = name.toList → Denotes t rate.num rate.den
  | ratio {front back a b : List Char} {mark : Char} {num den : Nat} : mark = '/' ∨ mark = ':' →
    (∀ c ∈ front, c ≠ '/' ∧ c ≠ ':') → Trimmed front a → Unsigned a num → Trimmed back b →
    Unsigned b den → num < 0x100000000 → den < 0x100000000 →
    Denotes (front ++ mark :: back) num den
  | decimal {whole fraction : List Char} {w f : Nat} : whole = [] ∧ w = 0 ∨ Unsigned whole w →
    Writes fraction f → fraction.length ≤ 6 → Denotes (whole ++ '.' :: fraction)
      (w * Nat.pow 10 fraction.length + f) (Nat.pow 10 fraction.length)
  | whole {t : List Char} {n : Nat} : Unsigned t n → n < 0x100000000 → Denotes t n 1

theorem named?_eq_some_iff : named? t = some rate ↔
    ∃ name, (name, rate) ∈ names ∧ t.map Char.toLower = name.toList := by
  have hname (name : String) :
      String.ofList (lower t) = name ↔ t.map Char.toLower = name.toList := by
    rw [lower, ← String.toList_inj, String.toList_ofList]
  rw [named?, lookup_eq_some_iff_mem (by decide)]
  constructor
  · intro hmem
    exact ⟨_, hmem, (hname _).mp rfl⟩
  · rintro ⟨name, hmem, heq⟩
    rwa [(hname name).mpr heq]

theorem named?_eq_none {c : Char} (hc : c ∈ t) (hother : c.isDigit = true ∨ c ∈ ['/', ':', '.']) :
    named? t = none := by
  rw [Option.eq_none_iff_forall_ne_some]
  intro rate hrate
  obtain ⟨name, hmem, heq⟩ := named?_eq_some_iff.mp hrate
  have hlower : c.toLower = c := by
    refine toLower_eq_self ?_
    rcases hother with hdigit | hmark
    · exact isUpper_of_isDigit hdigit
    · simp only [List.mem_cons, List.not_mem_nil, or_false] at hmark
      rcases hmark with rfl | rfl | rfl <;> rfl
  have hin : c ∈ name.toList := by
    rw [← heq, ← hlower]
    exact List.mem_map_of_mem hc
  have hnames : names.all (fun entry ↦ entry.1.toList.all fun d ↦
      !d.isDigit && decide (d ∉ ['/', ':', '.'])) = true := by decide
  have hfree := List.all_eq_true.mp (List.all_eq_true.mp hnames (name, rate) hmem) c hin
  rw [Bool.and_eq_true, Bool.not_eq_true', decide_eq_true_eq] at hfree
  rcases hother with hdigit | hmark
  · exact Bool.false_ne_true (hfree.1.symm.trans hdigit)
  · exact hfree.2 hmark

theorem word?_of_unsigned {n : Nat} (hu : Unsigned t n) (hn : n < 0x100000000) :
    word? t = some n := by
  rw [word?, hu.toOption_readNat, if_pos (Nat.le_of_lt_succ hn)]

theorem ofFraction?_eq_none_of_large (hden : den ≤ 1000000) (hnum : 0xffffffffffffffff < num) :
    ofFraction? num den = none := by
  rw [Option.eq_none_iff_forall_ne_some]
  intro rate hrate
  obtain ⟨hpos, hcross⟩ := ofFraction?_eq_some_iff.mp hrate
  have hle : num ≤ rate.num * den := hcross ▸ Nat.le_mul_of_pos_right num rate.den_pos
  have hshort : rate.num * den ≤ 0xffffffff * 1000000 :=
    Nat.mul_le_mul (Nat.le_of_lt_succ rate.num_lt) hden
  omega

def wholePart? (whole : List Char) : Option Nat :=
  if whole.isEmpty then some 0 else (readNat 0xffffffffffffffff whole).toOption

theorem wholePart?_eq_some_iff {whole : List Char} {w : Nat} : wholePart? whole = some w ↔
    (whole = [] ∧ w = 0 ∨ Unsigned whole w) ∧ w ≤ 0xffffffffffffffff := by
  cases whole with
  | nil =>
    have hnot : ¬ Unsigned [] w := fun hu ↦ hu.ne_nil rfl
    simp only [wholePart?, List.isEmpty_nil, if_true, Option.some.injEq, true_and, hnot, or_false]
    omega
  | cons c whole =>
    rw [wholePart?, List.isEmpty_cons, if_neg Bool.false_ne_true, toOption_readNat_eq_some_iff]
    simp

theorem decimal?_eq_do (whole fraction : List Char) : decimal? whole fraction = (do
    guard (1 ≤ fraction.length ∧ fraction.length ≤ 6 ∧ fraction.all Char.isDigit)
    let w ← wholePart? whole
    let f ← (readNat 0xffffffffffffffff fraction).toOption
    guard (w * Nat.pow 10 fraction.length + f ≤ 0xffffffffffffffff)
    ofFraction? (w * Nat.pow 10 fraction.length + f) (Nat.pow 10 fraction.length)) := by
  cases whole <;> rfl

/-- No decimal is turned away because its digits alone are a number that is too large: its fraction
would be too large as well. -/
theorem decimal?_eq {whole fraction : List Char} {w f : Nat}
    (hw : whole = [] ∧ w = 0 ∨ Unsigned whole w) (hf : Writes fraction f)
    (hlength : fraction.length ≤ 6) : decimal? whole fraction =
      ofFraction? (w * Nat.pow 10 fraction.length + f) (Nat.pow 10 fraction.length) := by
  have hshape : 1 ≤ fraction.length ∧ fraction.length ≤ 6 ∧ fraction.all Char.isDigit = true :=
    ⟨List.length_pos_iff.mpr hf.1, hlength, List.all_eq_true.mpr hf.2.1⟩
  have hpow : Nat.pow 10 fraction.length ≤ 1000000 := Nat.pow_le_pow_right (by decide) hlength
  have hwhole : w ≤ w * Nat.pow 10 fraction.length :=
    Nat.le_mul_of_pos_right w (Nat.pow_pos (by decide))
  rw [decimal?_eq_do, (Option.guard_eq_some' ()).mpr hshape]
  by_cases hle : w * Nat.pow 10 fraction.length + f ≤ 0xffffffffffffffff
  · have hfirst : wholePart? whole = some w := wholePart?_eq_some_iff.mpr ⟨hw, by omega⟩
    have hsecond : (readNat 0xffffffffffffffff fraction).toOption = some f :=
      toOption_readNat_eq_some_iff.mpr ⟨.bare hf, by omega⟩
    rw [hfirst, hsecond]
    change (guard (w * Nat.pow 10 fraction.length + f ≤ 0xffffffffffffffff) >>= fun _ ↦
      ofFraction? (w * Nat.pow 10 fraction.length + f) (Nat.pow 10 fraction.length)) = _
    rw [(Option.guard_eq_some' ()).mpr hle]
    rfl
  · rw [ofFraction?_eq_none_of_large hpow (Nat.not_le.mp hle), Option.eq_none_iff_forall_ne_some]
    intro rate hrate
    obtain ⟨_, -, hrate⟩ := Option.bind_eq_some_iff.mp hrate
    obtain ⟨w', hw', hrate⟩ := Option.bind_eq_some_iff.mp hrate
    obtain ⟨f', hf', hrate⟩ := Option.bind_eq_some_iff.mp hrate
    obtain ⟨_, hguard, -⟩ := Option.bind_eq_some_iff.mp hrate
    obtain rfl : w = w' := by
      rcases hw with ⟨rfl, rfl⟩ | hu
      · exact Option.some.inj hw'
      · rcases (wholePart?_eq_some_iff.mp hw').1 with ⟨rfl, rfl⟩ | hu'
        · exact absurd rfl hu.ne_nil
        · exact hu.eq hu'
    obtain rfl : f = f' := (Unsigned.bare hf).eq (toOption_readNat_eq_some_iff.mp hf').1
    exact hle ((Option.guard_eq_some' _).mp hguard)

theorem isMark_eq_false_of_digit {c : Char} (hc : c.isDigit = true ∨ c = '+') :
    (decide (c = '/') || decide (c = ':')) = false ∧ decide (c = '.') = false := by
  have hne (m : Char) (hm : m.isDigit = false ∧ m ≠ '+') : c ≠ m := by
    rintro rfl
    rcases hc with hdigit | rfl
    · exact Bool.false_ne_true (hm.1.symm.trans hdigit)
    · exact hm.2 rfl
  simp [hne '/' (by decide), hne ':' (by decide), hne '.' (by decide)]

theorem Denotes.read?_eq (hd : Denotes t num den) : read? t = ofFraction? num den := by
  cases hd with
  | @name _ name rate hmem heq =>
    rw [read?, named?_eq_some_iff.mpr ⟨name, hmem, heq⟩]
    exact (ofFraction?_self rate).symm
  | @ratio front back a b mark _ _ hmark hfront ha hnum hb hden hnum' hden' =>
    have hcut : cut? (fun c ↦ c = '/' || c = ':') (front ++ mark :: back) = some (front, back) :=
      cut?_append (fun c hc ↦ by simp [hfront c hc]) (by simpa using hmark) back
    have hnamed : named? (front ++ mark :: back) = none :=
      named?_eq_none (c := mark) (by simp) (.inr (by rcases hmark with rfl | rfl <;> simp))
    simp only [read?, hnamed, hcut, ratio?, ha.trim_eq, hb.trim_eq, word?_of_unsigned hnum hnum',
      word?_of_unsigned hden hden']
    rfl
  | @decimal whole fraction w f hw hf hlength =>
    have hwhole : ∀ c ∈ whole, c.isDigit = true ∨ c = '+' := by
      rcases hw with ⟨rfl, -⟩ | hu
      · exact List.forall_mem_nil _
      · exact fun c hc ↦ hu.mem hc
    have hcut : cut? (fun c ↦ c = '/' || c = ':') (whole ++ '.' :: fraction) = none := by
      refine cut?_eq_none fun c hc ↦ ?_
      rcases List.mem_append.mp hc with hc | hc
      · exact (isMark_eq_false_of_digit (hwhole c hc)).1
      · rcases List.mem_cons.mp hc with rfl | hc
        · decide
        · exact (isMark_eq_false_of_digit (.inl (hf.2.1 c hc))).1
    have hpoint : cut? (· = '.') (whole ++ '.' :: fraction) = some (whole, fraction) :=
      cut?_append (fun c hc ↦ (isMark_eq_false_of_digit (hwhole c hc)).2) (by decide) fraction
    have hnamed : named? (whole ++ '.' :: fraction) = none :=
      named?_eq_none (c := '.') (by simp) (.inr (by simp))
    simp only [read?, hnamed, hcut, hpoint]
    exact decimal?_eq hw hf hlength
  | @whole t n hu hn =>
    obtain ⟨c, hc, hdigit⟩ := hu.exists_digit
    have hcut : cut? (fun c ↦ c = '/' || c = ':') t = none :=
      cut?_eq_none fun c hc ↦ (isMark_eq_false_of_digit (hu.mem hc)).1
    have hpoint : cut? (· = '.') t = none :=
      cut?_eq_none fun c hc ↦ (isMark_eq_false_of_digit (hu.mem hc)).2
    simp only [read?, named?_eq_none hc (.inl hdigit), hcut, hpoint, whole?,
      word?_of_unsigned hu hn]
    rfl

theorem word?_eq_some_iff {n : Nat} : word? t = some n ↔ Unsigned t n ∧ n < 0x100000000 := by
  rw [word?, toOption_readNat_eq_some_iff, Nat.lt_succ_iff]

theorem exists_denotes_of_ratio? {front back : List Char} {mark : Char}
    (hmark : mark = '/' ∨ mark = ':') (hfront : ∀ c ∈ front, c ≠ '/' ∧ c ≠ ':')
    (hr : ratio? front back = some rate) :
    ∃ num den, Denotes (front ++ mark :: back) num den := by
  obtain ⟨num, hnum, hr⟩ := Option.bind_eq_some_iff.mp hr
  obtain ⟨den, hden, -⟩ := Option.bind_eq_some_iff.mp hr
  obtain ⟨ha, hnum⟩ := word?_eq_some_iff.mp hnum
  obtain ⟨hb, hden⟩ := word?_eq_some_iff.mp hden
  exact ⟨num, den, .ratio hmark hfront (trim_eq_iff.mp rfl) ha (trim_eq_iff.mp rfl) hb hnum hden⟩

theorem exists_denotes_of_decimal? {whole fraction : List Char}
    (hr : decimal? whole fraction = some rate) :
    ∃ num den, Denotes (whole ++ '.' :: fraction) num den := by
  rw [decimal?_eq_do] at hr
  obtain ⟨_, hshape, hr⟩ := Option.bind_eq_some_iff.mp hr
  obtain ⟨w, hw, hr⟩ := Option.bind_eq_some_iff.mp hr
  obtain ⟨hpos, hlength, hall⟩ := (Option.guard_eq_some' _).mp hshape
  exact ⟨_, _, .decimal (wholePart?_eq_some_iff.mp hw).1
    ⟨List.length_pos_iff.mp hpos, List.all_eq_true.mp hall, rfl⟩ hlength⟩

theorem exists_denotes (hr : read? t = some rate) : ∃ num den, Denotes t num den := by
  unfold read? at hr
  split at hr
  · next named hnamed =>
    obtain ⟨name, hmem, heq⟩ := named?_eq_some_iff.mp hnamed
    exact ⟨_, _, .name hmem heq⟩
  · split at hr
    · next front back hcut =>
      obtain ⟨mark, rfl, hmark, hfront⟩ := cut?_eq_some_iff.mp hcut
      exact exists_denotes_of_ratio? (by simpa using hmark)
        (fun c hc ↦ by simpa using hfront c hc) hr
    · split at hr
      · next whole fraction hcut =>
        obtain ⟨point, rfl, hpoint, -⟩ := cut?_eq_some_iff.mp hcut
        obtain rfl : point = '.' := of_decide_eq_true hpoint
        exact exists_denotes_of_decimal? hr
      · obtain ⟨n, hn, -⟩ := Option.bind_eq_some_iff.mp hr
        obtain ⟨hu, hn⟩ := word?_eq_some_iff.mp hn
        exact ⟨n, 1, .whole hu hn⟩

theorem read?_eq_some_iff : read? t = some rate ↔
    ∃ num den, Denotes t num den ∧ rate.Equals num den := by
  constructor
  · intro hr
    obtain ⟨num, den, hd⟩ := exists_denotes hr
    exact ⟨num, den, hd, ofFraction?_eq_some_iff.mp (hd.read?_eq ▸ hr)⟩
  · rintro ⟨num, den, hd, he⟩
    rw [hd.read?_eq]
    exact ofFraction?_eq_some_iff.mpr he

theorem parse_eq_ok_iff {text : String} : parse text = .ok rate ↔
    ∃ t num den, Trimmed text.toList t ∧ Denotes t num den ∧ rate.Equals num den := by
  have hread : parse text = .ok rate ↔ read? (trim text.toList) = some rate := by
    rw [parse]
    cases read? (trim text.toList) with
    | none => simp
    | some read =>
      exact ⟨fun heq ↦ congrArg some (Except.ok.inj heq),
        fun heq ↦ congrArg Except.ok (Option.some.inj heq)⟩
  rw [hread, ← exists_trimmed_iff (P := fun t ↦ read? t = some rate)]
  simp only [read?_eq_some_iff, exists_and_left]

theorem parse_eq_ok_iff_of_denotes {text : String} (ht : Trimmed text.toList t)
    (hd : Denotes t num den) : parse text = .ok rate ↔ rate.Equals num den := by
  constructor
  · intro hparse
    obtain ⟨t', num', den', ht', hd', he⟩ := parse_eq_ok_iff.mp hparse
    obtain rfl : t = t' := ht.trim_eq.symm.trans ht'.trim_eq
    exact ofFraction?_eq_some_iff.mp ((hd.read?_eq.symm.trans hd'.read?_eq).trans
      (ofFraction?_eq_some_iff.mpr he))
  · exact fun he ↦ parse_eq_ok_iff.mpr ⟨t, num, den, ht, hd, he⟩

theorem Denotes.den_lt (hd : Denotes t num den) : den < 0x100000000 := by
  cases hd with
  | name => exact FrameRate.den_lt _
  | ratio _ _ _ _ _ _ _ hden => exact hden
  | decimal _ _ hlength =>
    exact Nat.lt_of_le_of_lt (Nat.pow_le_pow_right (by decide) hlength) (by decide)
  | whole => decide

/-- A text is read as a rate if and only if, without the blanks at its ends, it denotes a positive
fraction with a numerator of 32 bits in lowest terms. The rate is exactly that fraction, so all
spellings of a fraction are read alike. -/
theorem parse_takes_exact_value (text : String) :
    (∀ rate, parse text = .ok rate ↔
      ∃ t num den, Trimmed text.toList t ∧ Denotes t num den ∧ rate.Equals num den) ∧
    ((∃ rate, parse text = .ok rate) ↔
      ∃ t num den, Trimmed text.toList t ∧ Denotes t num den ∧ 0 < num ∧ 0 < den ∧
        num / num.gcd den < 0x100000000) ∧
    ∀ (other : String) (t t' : List Char) (num den num' den' : Nat),
      Trimmed text.toList t → Denotes t num den → Trimmed other.toList t' → Denotes t' num' den' →
      0 < den → 0 < den' → num * den' = num' * den →
      ∀ rate, parse text = .ok rate ↔ parse other = .ok rate := by
  refine ⟨fun rate ↦ parse_eq_ok_iff, ⟨?_, ?_⟩, ?_⟩
  · rintro ⟨rate, hparse⟩
    obtain ⟨t, num, den, ht, hd, he⟩ := parse_eq_ok_iff.mp hparse
    exact ⟨t, num, den, ht, hd, he.num_pos, he.1, he.lowest.1 ▸ rate.num_lt⟩
  · rintro ⟨t, num, den, ht, hd, hnum, hden, hshort⟩
    have hden' : den / num.gcd den < 0x100000000 :=
      Nat.lt_of_le_of_lt (Nat.div_le_self ..) hd.den_lt
    obtain ⟨rate, hrate⟩ : ∃ rate, ofFraction? num den = some rate :=
      ⟨_, dif_pos ⟨⟨hnum, hden⟩, hshort, hden'⟩⟩
    exact ⟨rate, (parse_eq_ok_iff_of_denotes ht hd).mpr (ofFraction?_eq_some_iff.mp hrate)⟩
  · intro other t t' num den num' den' ht hd ht' hd' hden hden' hcross rate
    rw [parse_eq_ok_iff_of_denotes ht hd, parse_eq_ok_iff_of_denotes ht' hd']
    exact Equals.congr hden hden' hcross

theorem parse_takes_exact_value_of_spellings :
    Trimmed " +29.97".toList "+29.97".toList ∧ Denotes "+29.97".toList 2997 100 ∧
    Trimmed "2997 : 0100".toList "2997 : 0100".toList ∧ Denotes "2997 : 0100".toList 2997 100 ∧
    ∃ rate, parse " +29.97" = .ok rate ∧ parse "2997 : 0100" = .ok rate ∧ rate.Equals 2997 100 := by
  have ht : Trimmed " +29.97".toList "+29.97".toList := trim_eq_iff.mp (by decide)
  have ht' : Trimmed "2997 : 0100".toList "2997 : 0100".toList := trim_eq_iff.mp (by decide)
  have hwhole : Unsigned "+29".toList 29 := .plus ⟨by decide, List.all_eq_true.mp rfl, by decide⟩
  have hfraction : Writes "97".toList 97 := ⟨by decide, List.all_eq_true.mp rfl, by decide⟩
  have hd : Denotes "+29.97".toList 2997 100 :=
    Denotes.decimal (.inr hwhole) hfraction (by decide)
  have hfront : Trimmed "2997 ".toList "2997".toList := trim_eq_iff.mp (by decide)
  have hback : Trimmed " 0100".toList "0100".toList := trim_eq_iff.mp (by decide)
  have hnum : Unsigned "2997".toList 2997 := .bare ⟨by decide, List.all_eq_true.mp rfl, by decide⟩
  have hden : Unsigned "0100".toList 100 := .bare ⟨by decide, List.all_eq_true.mp rfl, by decide⟩
  have hplain : ∀ c ∈ "2997 ".toList, c ≠ '/' ∧ c ≠ ':' := by simp
  have hd' : Denotes "2997 : 0100".toList 2997 100 :=
    Denotes.ratio (.inr rfl) hplain hfront hnum hback hden (by decide) (by decide)
  obtain ⟨-, haccepted, halike⟩ := parse_takes_exact_value " +29.97"
  obtain ⟨rate, hrate⟩ := haccepted.mpr
    ⟨_, 2997, 100, ht, hd, by decide, by decide, by decide⟩
  have hrate' := (halike "2997 : 0100" _ _ 2997 100 2997 100 ht hd ht' hd' (by decide) (by decide)
    rfl rate).mp hrate
  exact ⟨ht, hd, ht', hd', rate, hrate, hrate', (parse_eq_ok_iff_of_denotes ht hd).mp hrate⟩

end FrameRate

end ScreenCapture

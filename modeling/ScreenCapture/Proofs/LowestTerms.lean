import ScreenCapture.Proofs.OptionOrigins
import ScreenCapture.Proofs.RateTexts

namespace ScreenCapture

open Text Numeral

namespace FrameRate

def euclid (a b : UInt64) : UInt64 :=
  if b = 0 then a else euclid b (a % b)
termination_by b.toNat
decreasing_by
  rw [UInt64.toNat_mod]
  exact Nat.mod_lt _ (UInt64.pos_iff_ne_zero.mpr ‹_›)

theorem toNat_euclid (a b : UInt64) : (euclid a b).toNat = a.toNat.gcd b.toNat := by
  induction a, b using euclid.induct with
  | case1 a =>
    rw [euclid, if_pos rfl, UInt64.toNat_zero, Nat.gcd_zero_right]
  | case2 a b hb ih =>
    rw [euclid, if_neg hb, ih, UInt64.toNat_mod, Nat.gcd_comm, ← Nat.gcd_rec, Nat.gcd_comm]

/-- A numerator and a denominator as two words, of which nothing else is known. -/
structure Terms where
  num : UInt32
  den : UInt32
deriving DecidableEq

def terms (rate : FrameRate) : Terms := ⟨UInt32.ofNat rate.num, UInt32.ofNat rate.den⟩

namespace Terms

def reduced? (num den : UInt32) : Option Terms :=
  if num = 0 ∨ den = 0 then none
  else
    let divisor := (euclid num.toUInt64 den.toUInt64).toUInt32
    some ⟨num / divisor, den / divisor⟩

def narrow? (word : UInt64) : Option UInt32 :=
  if word ≤ 0xffffffff then some word.toUInt32 else none

/-- Two wide words, of which only the reduced ones have to be short. They are reduced once more
when they are. -/
def narrowed? (num den : UInt64) : Option Terms := do
  let divisor := max (euclid num den) 1
  reduced? (← narrow? (num / divisor)) (← narrow? (den / divisor))

def named : List (String × Terms) :=
  [("ntsc", ⟨30000, 1001⟩), ("qntsc", ⟨30000, 1001⟩), ("sntsc", ⟨30000, 1001⟩), ("pal", ⟨25, 1⟩),
    ("qpal", ⟨25, 1⟩), ("spal", ⟨25, 1⟩), ("film", ⟨24, 1⟩), ("ntsc-film", ⟨24000, 1001⟩)]

/-- The words that are worked out for a text without blanks at its ends, in each of its four
forms. Only a decimal takes wide words on the way. -/
inductive Read : List Char → Terms → Prop
  | name {t : List Char} {name : String} {terms : Terms} : (name, terms) ∈ named →
    t.map Char.toLower = name.toList → Read t terms
  | ratio {front back a b : List Char} {mark : Char} {num den : UInt32} {terms : Terms} :
    mark = '/' ∨ mark = ':' → (∀ c ∈ front, c ≠ '/' ∧ c ≠ ':') → Trimmed front a →
    Unsigned a num.toNat → Trimmed back b → Unsigned b den.toNat →
    reduced? num den = some terms → Read (front ++ mark :: back) terms
  | decimal {whole fraction : List Char} {w f : Nat} {num den : UInt64} {terms : Terms} :
    whole = [] ∧ w = 0 ∨ Unsigned whole w → Writes fraction f → fraction.length ≤ 6 →
    num.toNat = w * Nat.pow 10 fraction.length + f → den.toNat = Nat.pow 10 fraction.length →
    narrowed? num den = some terms → Read (whole ++ '.' :: fraction) terms
  | whole {t : List Char} {n : UInt32} {terms : Terms} : Unsigned t n.toNat →
    reduced? n 1 = some terms → Read t terms

/-- The words that the program ever takes as those of a rate. -/
inductive Taken : Terms → Prop
  | named {name : String} {terms : Terms} : (name, terms) ∈ named → Taken terms
  | new {num den : UInt32} {terms : Terms} : reduced? num den = some terms → Taken terms
  | read {t : List Char} {terms : Terms} : Read t terms → Taken terms

structure IsLowest (terms : Terms) : Prop where
  num_pos : 0 < terms.num
  den_pos : 0 < terms.den
  coprime : terms.num.toNat.gcd terms.den.toNat = 1

end Terms

variable {rate : FrameRate}

theorem toNat_num_terms (rate : FrameRate) : rate.terms.num.toNat = rate.num :=
  UInt32.toNat_ofNat_of_lt' rate.num_lt

theorem toNat_den_terms (rate : FrameRate) : rate.terms.den.toNat = rate.den :=
  UInt32.toNat_ofNat_of_lt' rate.den_lt

theorem isLowest_terms (rate : FrameRate) : rate.terms.IsLowest where
  num_pos := UInt32.lt_iff_toNat_lt.mpr (by rw [toNat_num_terms]; exact rate.num_pos)
  den_pos := UInt32.lt_iff_toNat_lt.mpr (by rw [toNat_den_terms]; exact rate.den_pos)
  coprime := by rw [toNat_num_terms, toNat_den_terms, rate.coprime]

theorem terms_eq_iff {terms : Terms} :
    rate.terms = terms ↔ rate.num = terms.num.toNat ∧ rate.den = terms.den.toNat := by
  rw [← toNat_num_terms, ← toNat_den_terms, UInt32.toNat_inj, UInt32.toNat_inj]
  cases terms
  exact Terms.mk.injEq .. ▸ Iff.rfl

theorem ofFraction?_div {num den k : Nat} (hk : 0 < k) (hnum : k ∣ num) (hden : k ∣ den) :
    ofFraction? (num / k) (den / k) = ofFraction? num den := by
  obtain ⟨n, rfl⟩ := hnum
  obtain ⟨d, rfl⟩ := hden
  rw [Nat.mul_div_cancel_left n hk, Nat.mul_div_cancel_left d hk]
  ext rate
  rw [ofFraction?_eq_some_iff, ofFraction?_eq_some_iff]
  have hcross : n * (k * d) = k * n * d := by rw [Nat.mul_left_comm, Nat.mul_assoc]
  constructor
  · intro he
    exact (Equals.congr he.1 (Nat.mul_pos hk he.1) hcross).mp he
  · intro he
    exact (Equals.congr (Nat.pos_of_mul_pos_left he.1) he.1 hcross).mpr he

theorem ofFraction?_map {num den : Nat} {terms' : Terms} (hpos : 0 < num ∧ 0 < den)
    (hnum : num / num.gcd den = terms'.num.toNat) (hden : den / num.gcd den = terms'.den.toNat) :
    (ofFraction? num den).map terms = some terms' := by
  rw [ofFraction?, dif_pos ⟨hpos, hnum ▸ terms'.num.toNat_lt, hden ▸ terms'.den.toNat_lt⟩]
  exact congrArg some (terms_eq_iff.mpr ⟨hnum, hden⟩)

theorem ofFraction?_eq_none {num den : Nat} (h : num = 0 ∨ den = 0) : ofFraction? num den = none :=
  dif_neg fun hbounds ↦ by omega

theorem Terms.reduced?_eq (num den : UInt32) :
    reduced? num den = (ofFraction? num.toNat den.toNat).map terms := by
  have hzero (word : UInt32) : word = 0 ↔ word.toNat = 0 := UInt32.toNat_inj.symm
  unfold reduced?
  split
  · next h =>
    rw [hzero, hzero] at h
    rw [ofFraction?_eq_none h, Option.map_none]
  · next h =>
    rw [hzero, hzero, not_or] at h
    have hpos : 0 < num.toNat ∧ 0 < den.toNat := by omega
    have hdivisor :
        (euclid num.toUInt64 den.toUInt64).toUInt32.toNat = num.toNat.gcd den.toNat := by
      rw [UInt64.toNat_toUInt32, toNat_euclid, UInt32.toNat_toUInt64, UInt32.toNat_toUInt64]
      exact Nat.mod_eq_of_lt (Nat.lt_of_le_of_lt (Nat.gcd_le_left _ hpos.1) num.toNat_lt)
    refine (ofFraction?_map hpos ?_ ?_).symm
    · rw [UInt32.toNat_div, hdivisor]
    · rw [UInt32.toNat_div, hdivisor]

theorem Terms.narrow?_eq_some_iff {wide : UInt64} {word : UInt32} :
    narrow? wide = some word ↔ wide.toNat = word.toNat := by
  have hle : wide ≤ 0xffffffff ↔ wide.toNat ≤ 0xffffffff := UInt64.le_iff_toNat_le
  unfold narrow?
  split
  · next h =>
    have hlt : wide.toNat < 0x100000000 := Nat.lt_succ_of_le (hle.mp h)
    rw [Option.some.injEq, ← UInt32.toNat_inj, UInt64.toNat_toUInt32]
    exact Eq.congr_left (Nat.mod_eq_of_lt hlt)
  · next h =>
    rw [hle] at h
    have hlt := word.toNat_lt
    simp only [reduceCtorEq, false_iff]
    omega

theorem toNat_max_one (word : UInt64) : (max word 1).toNat = max word.toNat 1 := by
  rw [Nat.max_def]
  change (if word ≤ 1 then 1 else word).toNat = _
  simp only [UInt64.le_iff_toNat_le, UInt64.toNat_one]
  split <;> rfl

theorem toNat_max_euclid (num den : UInt64) :
    (max (euclid num den) 1).toNat = max (num.toNat.gcd den.toNat) 1 := by
  rw [toNat_max_one, toNat_euclid]

theorem max_gcd_dvd (m n : Nat) : max (m.gcd n) 1 ∣ m ∧ max (m.gcd n) 1 ∣ n := by
  rcases Nat.eq_zero_or_pos (m.gcd n) with hgcd | hgcd
  · obtain ⟨rfl, rfl⟩ := Nat.gcd_eq_zero_iff.mp hgcd
    exact ⟨Nat.dvd_zero _, Nat.dvd_zero _⟩
  · rw [Nat.max_eq_left hgcd]
    exact ⟨Nat.gcd_dvd_left _ _, Nat.gcd_dvd_right _ _⟩

theorem Terms.reduced?_of_narrow? {num den : UInt64} {p q : UInt32}
    (hp : narrow? (num / max (euclid num den) 1) = some p)
    (hq : narrow? (den / max (euclid num den) 1) = some q) :
    reduced? p q = (ofFraction? num.toNat den.toNat).map terms := by
  obtain ⟨hnum, hden⟩ := max_gcd_dvd num.toNat den.toNat
  rw [narrow?_eq_some_iff, UInt64.toNat_div, toNat_max_euclid] at hp hq
  rw [reduced?_eq, ← hp, ← hq, ofFraction?_div (Nat.le_max_right _ 1) hnum hden]

theorem Terms.narrowed?_eq (num den : UInt64) :
    narrowed? num den = (ofFraction? num.toNat den.toNat).map terms := by
  ext terms'
  constructor
  · intro h
    obtain ⟨p, hp, h⟩ := Option.bind_eq_some_iff.mp h
    obtain ⟨q, hq, h⟩ := Option.bind_eq_some_iff.mp h
    rwa [reduced?_of_narrow? hp hq] at h
  · intro h
    obtain ⟨rate, hrate, -⟩ := Option.map_eq_some_iff.mp h
    have he := ofFraction?_eq_some_iff.mp hrate
    have hgcd : max (num.toNat.gcd den.toNat) 1 = num.toNat.gcd den.toNat :=
      Nat.max_eq_left (Nat.gcd_pos_of_pos_left _ he.num_pos)
    have hp : narrow? (num / max (euclid num den) 1) = some rate.terms.num := by
      rw [narrow?_eq_some_iff, UInt64.toNat_div, toNat_max_euclid, hgcd, he.lowest.1,
        toNat_num_terms]
    have hq : narrow? (den / max (euclid num den) 1) = some rate.terms.den := by
      rw [narrow?_eq_some_iff, UInt64.toNat_div, toNat_max_euclid, hgcd, he.lowest.2,
        toNat_den_terms]
    exact Option.bind_eq_some_iff.mpr
      ⟨_, hp, Option.bind_eq_some_iff.mpr ⟨_, hq, (reduced?_of_narrow? hp hq).trans h⟩⟩

/-- The ways for the program to come by a rate. -/
inductive Obtained : FrameRate → Prop
  | ntsc : Obtained ntsc
  | new {num den : UInt32} {rate : FrameRate} : new num den = .ok rate → Obtained rate
  | named {word : List Char} {rate : FrameRate} : named? word = some rate → Obtained rate
  | parse {text : String} {rate : FrameRate} : parse text = .ok rate → Obtained rate
  | value {v : Json.Value} {rate : FrameRate} : v.toFrameRate = .ok rate → Obtained rate
  | json {text : String} {rate : FrameRate} : parseJson text = .ok rate → Obtained rate
  | standard : Obtained CaptureOptions.standard.frameRate
  | optionsValue {v : Json.Value} {options : CaptureOptions} :
    CaptureOptions.ofValue v = .ok options → Obtained options.frameRate
  | optionsJson {text : String} {options : CaptureOptions} :
    CaptureOptions.parse text = .ok options → Obtained options.frameRate

theorem toOption_new (num den : UInt32) : (new num den).toOption = ofFraction? num.toNat den.toNat := by
  unfold new
  split
  · next rate hrate => rw [hrate, Except.toOption]
  · next hrate => rw [hrate, Except.toOption]

theorem mem_named_iff {name : String} {terms' : Terms} :
    (name, terms') ∈ Terms.named ↔ ∃ rate, (name, rate) ∈ names ∧ rate.terms = terms' := by
  have hmap : names.map (fun entry ↦ (entry.1, entry.2.terms)) = Terms.named := rfl
  rw [← hmap, List.mem_map]
  constructor
  · rintro ⟨entry, hmem, heq⟩
    cases heq
    exact ⟨entry.2, hmem, rfl⟩
  · rintro ⟨rate, hmem, rfl⟩
    exact ⟨_, hmem, rfl⟩

theorem taken_of_mem_names {name : String} (h : (name, rate) ∈ names) : rate.terms.Taken :=
  .named (mem_named_iff.mpr ⟨rate, h, rfl⟩)

theorem Terms.Read.exists_denotes {t : List Char} {terms' : Terms} (hread : Read t terms') :
    ∃ num den, Denotes t num den ∧ (ofFraction? num den).map terms = some terms' := by
  cases hread with
  | name hmem heq =>
    obtain ⟨rate, hentry, rfl⟩ := mem_named_iff.mp hmem
    exact ⟨_, _, .name hentry heq, congrArg (Option.map terms) (ofFraction?_self rate)⟩
  | @ratio _ _ _ _ _ num den _ hmark hfront ha hnum hb hden hwords =>
    exact ⟨_, _, .ratio hmark hfront ha hnum hb hden num.toNat_lt den.toNat_lt,
      (reduced?_eq num den).symm.trans hwords⟩
  | @decimal _ _ _ _ num den _ hw hf hlength hnum hden hwords =>
    rw [narrowed?_eq, hnum, hden] at hwords
    exact ⟨_, _, .decimal hw hf hlength, hwords⟩
  | @whole _ n _ hu hwords =>
    exact ⟨_, _, .whole hu n.toNat_lt, (reduced?_eq n 1).symm.trans hwords⟩

theorem Denotes.read {t : List Char} {num den : Nat} {terms' : Terms} (hd : Denotes t num den)
    (hfraction : (ofFraction? num den).map terms = some terms') : Terms.Read t terms' := by
  cases hd with
  | @name _ name rate hmem heq =>
    rw [ofFraction?_self] at hfraction
    cases hfraction
    exact .name (mem_named_iff.mpr ⟨rate, hmem, rfl⟩) heq
  | ratio hmark hfront ha hnum hb hden hnum' hden' =>
    have hnum'' := UInt32.toNat_ofNat_of_lt' hnum'
    have hden'' := UInt32.toNat_ofNat_of_lt' hden'
    rw [← hnum''] at hnum
    rw [← hden''] at hden
    refine .ratio hmark hfront ha hnum hb hden ?_
    rwa [Terms.reduced?_eq, hnum'', hden'']
  | @decimal whole fraction w f hw hf hlength =>
    have hpow : Nat.pow 10 fraction.length ≤ 1000000 := Nat.pow_le_pow_right (by decide) hlength
    have hnum : w * Nat.pow 10 fraction.length + f < 0x10000000000000000 := by
      by_contra hlarge
      rw [ofFraction?_eq_none_of_large hpow (Nat.not_lt.mp hlarge)] at hfraction
      cases hfraction
    have hnum' := UInt64.toNat_ofNat_of_lt' hnum
    have hden' := UInt64.toNat_ofNat_of_lt' (Nat.lt_of_le_of_lt hpow (by decide))
    refine .decimal hw hf hlength hnum' hden' ?_
    rwa [Terms.narrowed?_eq, hnum', hden']
  | whole hu hn =>
    have hn' := UInt32.toNat_ofNat_of_lt' hn
    rw [← hn'] at hu
    refine .whole hu ?_
    rw [Terms.reduced?_eq, hn']
    exact hfraction

/-- In words of limited width a text is read as the fraction that it denotes. -/
theorem Terms.read_iff {t : List Char} {terms' : Terms} : Read t terms' ↔
    ∃ num den, Denotes t num den ∧ (ofFraction? num den).map terms = some terms' := by
  constructor
  · exact Read.exists_denotes
  · rintro ⟨num, den, hd, hfraction⟩
    exact hd.read hfraction

theorem parse_eq_ok_iff_read {text : String} {terms' : Terms} :
    (∃ rate, parse text = .ok rate ∧ rate.terms = terms') ↔
      ∃ t, Trimmed text.toList t ∧ Terms.Read t terms' := by
  constructor
  · rintro ⟨rate, hparse, rfl⟩
    obtain ⟨t, num, den, ht, hd, he⟩ := parse_eq_ok_iff.mp hparse
    have hfraction := congrArg (Option.map terms) (ofFraction?_eq_some_iff.mpr he)
    exact ⟨t, ht, Terms.read_iff.mpr ⟨num, den, hd, hfraction⟩⟩
  · rintro ⟨t, ht, hread⟩
    obtain ⟨num, den, hd, hfraction⟩ := Terms.read_iff.mp hread
    obtain ⟨rate, hrate, hterms⟩ := Option.map_eq_some_iff.mp hfraction
    exact ⟨rate, parse_eq_ok_iff.mpr ⟨t, num, den, ht, hd, ofFraction?_eq_some_iff.mp hrate⟩, hterms⟩

theorem taken_of_parse {text : String} (h : parse text = .ok rate) : rate.terms.Taken := by
  obtain ⟨t, -, hread⟩ := parse_eq_ok_iff_read.mp ⟨rate, h, rfl⟩
  exact .read hread

theorem taken_of_areRead {options : CaptureOptions} (ho : options.AreRead) :
    options.frameRate.terms.Taken := by
  rcases ho.frameRate with hntsc | ⟨text, hparse⟩
  · have hmem : ("ntsc", options.frameRate) ∈ names := hntsc ▸ List.mem_cons_self
    exact taken_of_mem_names hmem
  · exact taken_of_parse hparse

theorem Obtained.taken (ho : Obtained rate) : rate.terms.Taken := by
  cases ho with
  | ntsc => exact taken_of_areRead CaptureOptions.standard_areRead
  | standard => exact taken_of_areRead CaptureOptions.standard_areRead
  | @new num den _ h =>
    have hwords : Terms.reduced? num den = some rate.terms := by
      rw [Terms.reduced?_eq, ← toOption_new, h]
      rfl
    exact .new hwords
  | named h =>
    obtain ⟨name, hmem, -⟩ := named?_eq_some_iff.mp h
    exact taken_of_mem_names hmem
  | parse h => exact taken_of_parse h
  | value h =>
    obtain ⟨text, -, hparse⟩ := Json.Value.exists_parse_of_toParsed h
    exact taken_of_parse hparse
  | json h =>
    obtain ⟨text, hparse⟩ := exists_parse_of_parseJson h
    exact taken_of_parse hparse
  | optionsValue h => exact taken_of_areRead (CaptureOptions.areRead_of_ofValue h)
  | optionsJson h => exact taken_of_areRead (CaptureOptions.areRead_of_parse h)

theorem Terms.Taken.isLowest {terms : Terms} (ht : terms.Taken) : terms.IsLowest := by
  have hmap {fraction : Option FrameRate} (h : fraction.map FrameRate.terms = some terms) :
      terms.IsLowest := by
    obtain ⟨rate, -, rfl⟩ := Option.map_eq_some_iff.mp h
    exact rate.isLowest_terms
  cases ht with
  | named h =>
    obtain ⟨rate, -, rfl⟩ := mem_named_iff.mp h
    exact rate.isLowest_terms
  | new h => exact hmap ((Terms.reduced?_eq _ _).symm.trans h)
  | read h =>
    obtain ⟨num, den, -, hfraction⟩ := Terms.read_iff.mp h
    exact hmap hfraction

theorem exists_equals_of_new {num den : UInt32} (hnum : 0 < num) (hden : 0 < den) :
    ∃ rate, new num den = .ok rate ∧ rate.Equals num.toNat den.toNat := by
  have hpos : ¬ (num = 0 ∨ den = 0) :=
    not_or.mpr ⟨UInt32.pos_iff_ne_zero.mp hnum, UInt32.pos_iff_ne_zero.mp hden⟩
  have hsome := (Terms.reduced?_eq num den).symm.trans (if_neg hpos)
  obtain ⟨rate, hrate, -⟩ := Option.map_eq_some_iff.mp hsome
  refine ⟨rate, ?_, ofFraction?_eq_some_iff.mp hrate⟩
  rw [new, hrate]

theorem new_eq_new_iff {a b c d : UInt32} (ha : 0 < a) (hb : 0 < b) (hc : 0 < c) (hd : 0 < d) :
    new a b = new c d ↔ a.toNat * d.toNat = c.toNat * b.toNat := by
  obtain ⟨r, hr, he⟩ := exists_equals_of_new ha hb
  obtain ⟨s, hs, he'⟩ := exists_equals_of_new hc hd
  rw [hr, hs, Except.ok.injEq]
  constructor
  · rintro rfl
    refine Nat.eq_of_mul_eq_mul_right r.den_pos ?_
    calc a.toNat * d.toNat * r.den = r.num * b.toNat * d.toNat := by rw [he.2, Nat.mul_right_comm]
      _ = c.toNat * b.toNat * r.den := by rw [Nat.mul_right_comm, he'.2, Nat.mul_right_comm]
  · intro hcross
    have hr' := (Equals.congr he.1 he'.1 hcross).mp he
    exact Option.some.inj ((ofFraction?_eq_some_iff.mpr hr').symm.trans
      (ofFraction?_eq_some_iff.mpr he'))

/-- Whichever way the program comes by a rate, it is kept as two words that are positive and in
lowest terms. So equal fractions are equal rates, and what a rate is written as is read back as the
rate, in the same spelling every time. -/
theorem rates_are_kept_in_lowest_terms :
    (∀ num den, (new num den).toOption.map terms = Terms.reduced? num den) ∧
    (∀ text terms', (∃ rate, parse text = .ok rate ∧ rate.terms = terms') ↔
      ∃ t, Trimmed text.toList t ∧ Terms.Read t terms') ∧
    (∀ rate, Obtained rate → rate.terms.Taken) ∧ (∀ terms : Terms, terms.Taken → terms.IsLowest) ∧
    (∀ a b c d : UInt32, 0 < a → 0 < b → 0 < c → 0 < d →
      (new a b = new c d ↔ a.toNat * d.toNat = c.toNat * b.toNat)) ∧
    (∀ rate, parse (toString rate) = .ok rate) ∧
    ∀ text rate, parse text = .ok rate →
      ∃ again, parse (toString rate) = .ok again ∧ again = rate ∧ toString again = toString rate := by
  refine ⟨fun num den ↦ ?_, fun _ _ ↦ parse_eq_ok_iff_read, fun _ ↦ Obtained.taken,
    fun _ ↦ Terms.Taken.isLowest, fun _ _ _ _ ↦ new_eq_new_iff, parse_toString, fun text rate _ ↦ ?_⟩
  · rw [toOption_new, Terms.reduced?_eq]
  · exact ⟨rate, rate.parse_toString, rfl, rfl⟩

theorem rates_are_kept_in_lowest_terms_of_decimal :
    new 60000 2002 = new 30000 1001 ∧ ntsc.terms.IsLowest ∧
    ∃ rate, parse " 59.940" = .ok rate ∧ rate.terms = ⟨2997, 50⟩ ∧
      ∃ again, parse (toString rate) = .ok again ∧ toString again = toString rate := by
  obtain ⟨-, hread, htaken, hlowest, hcross, -, hagain⟩ := rates_are_kept_in_lowest_terms
  have ht : Trimmed " 59.940".toList "59.940".toList := trim_eq_iff.mp (by decide)
  have hwhole : Unsigned "59".toList 59 := .bare ⟨by decide, List.all_eq_true.mp rfl, by decide⟩
  have hfraction : Writes "940".toList 940 := ⟨by decide, List.all_eq_true.mp rfl, by decide⟩
  have hwords : Terms.narrowed? 59940 1000 = some ⟨2997, 50⟩ := by
    rw [Terms.narrowed?_eq]
    decide
  have hdecimal : Terms.Read "59.940".toList ⟨2997, 50⟩ :=
    .decimal (.inr hwhole) hfraction (by decide) rfl rfl hwords
  obtain ⟨rate, hparse, hterms⟩ := (hread _ _).mpr ⟨_, ht, hdecimal⟩
  obtain ⟨again, hparse', -, hsame⟩ := hagain _ _ hparse
  exact ⟨(hcross 60000 2002 30000 1001 (by decide) (by decide) (by decide) (by decide)).mpr rfl,
    hlowest _ (htaken _ .ntsc), rate, hparse, hterms, again, hparse', hsame⟩

end FrameRate

end ScreenCapture

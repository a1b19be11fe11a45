import ScreenCapture.FrameRate
import ScreenCapture.VideoSize

namespace ScreenCapture

theorem le_ofDigitChars (cs : List Char) (v : Nat) : v ≤ Nat.ofDigitChars 10 cs v := by
  induction cs generalizing v with
  | nil => exact Nat.le_refl v
  | cons c cs ih =>
    rw [Nat.ofDigitChars_cons]
    exact Nat.le_trans (by omega) (ih _)

theorem isDigit_of_mem_toDigits {n : Nat} {c : Char} (hc : c ∈ Nat.toDigits 10 n) :
    c.isDigit = true :=
  Nat.isDigit_of_mem_toDigits (by decide) (by decide) hc

theorem exists_cons_toDigits (n : Nat) :
    ∃ c cs, Nat.toDigits 10 n = c :: cs ∧ c.isDigit = true := by
  obtain ⟨c, cs, h⟩ := List.exists_cons_of_ne_nil (Nat.toDigits_ne_nil (n := n) (b := 10))
  exact ⟨c, cs, h, isDigit_of_mem_toDigits (h ▸ List.mem_cons_self ..)⟩

namespace Numeral

theorem readDigits_eq {limit v : Nat} {cs : List Char} (hd : ∀ c ∈ cs, c.isDigit = true)
    (hle : Nat.ofDigitChars 10 cs v ≤ limit) :
    readDigits limit v cs = .ok (Nat.ofDigitChars 10 cs v) := by
  induction cs generalizing v with
  | nil => rfl
  | cons c cs ih =>
    rw [Nat.ofDigitChars_cons, Nat.mul_comm] at hle ⊢
    have hnext := Nat.le_trans (le_ofDigitChars cs _) hle
    rw [readDigits, digit?, if_pos (hd c (List.mem_cons_self ..))]
    change (if limit < v * 10 + (c.toNat - '0'.toNat) then _ else _) = _
    rw [if_neg (Nat.not_lt.mpr hnext)]
    exact ih (fun d hmem ↦ hd d (List.mem_cons_of_mem c hmem)) hle

theorem readNat_toDigits {limit n : Nat} (h : n ≤ limit) :
    readNat limit (Nat.toDigits 10 n) = .ok n := by
  have hread : readDigits limit 0 (Nat.toDigits 10 n) = .ok n := by
    have hvalue : Nat.ofDigitChars 10 (Nat.toDigits 10 n) 0 = n := Nat.ofDigitChars_ten_toDigits
    rw [readDigits_eq (fun c ↦ isDigit_of_mem_toDigits) (by rwa [hvalue]), hvalue]
  obtain ⟨c, cs, hcs, hc⟩ := exists_cons_toDigits n
  rw [hcs] at hread ⊢
  have hplus : c ≠ '+' := by
    rintro rfl
    exact absurd hc (by decide)
  rw [readNat]
  · exact hread
  · simp
  · simpa using hplus

end Numeral

namespace Text

theorem trim_eq_self {s : List Char} (h : ∀ c ∈ s, isBlank c = false) : trim s = s := by
  have hdrop {t : List Char} (ht : ∀ c ∈ t, isBlank c = false) : t.dropWhile isBlank = t := by
    cases t with
    | nil => rfl
    | cons c t => rw [List.dropWhile_cons, if_neg (by simp [ht c])]
  rw [trim, hdrop h, hdrop (fun c hc ↦ h c (List.mem_reverse.mp hc)), List.reverse_reverse]

theorem cut?_eq_none {p : Char → Bool} {s : List Char} (h : ∀ c ∈ s, p c = false) :
    cut? p s = none := by
  induction s with
  | nil => rfl
  | cons c s ih =>
    rw [cut?, if_neg (by simp [h c]), ih (fun d hd ↦ h d (List.mem_cons_of_mem c hd))]
    rfl

theorem cut?_append {p : Char → Bool} {s : List Char} {c : Char} (h : ∀ d ∈ s, p d = false)
    (hc : p c = true) (t : List Char) : cut? p (s ++ c :: t) = some (s, t) := by
  induction s with
  | nil => rw [List.nil_append, cut?, if_pos hc]
  | cons d s ih =>
    rw [List.cons_append, cut?, if_neg (by simp [h d]),
      ih (fun d' hd ↦ h d' (List.mem_cons_of_mem d hd))]
    rfl

theorem isUpper_iff {c : Char} : c.isUpper = true ↔ c.val ≥ 'A'.val ∧ c.val ≤ 'Z'.val :=
  decide_eq_true_iff

theorem toLower_eq_self {c : Char} (h : c.isUpper = false) : c.toLower = c :=
  dif_neg (mt isUpper_iff.mpr (Bool.eq_false_iff.mp h))

theorem lower_eq_self {s : List Char} (h : ∀ c ∈ s, c.isUpper = false) : lower s = s := by
  rw [lower, List.map_congr_left fun c hc ↦ toLower_eq_self (h c hc), List.map_id']

def Joined (mark : Char) (s : List Char) : Prop := ∀ c ∈ s, c.isDigit = true ∨ c = mark

variable {mark : Char} {s : List Char}

theorem joined_toDigits (n : Nat) : Joined mark (Nat.toDigits 10 n) :=
  fun _ hc ↦ .inl (isDigit_of_mem_toDigits hc)

theorem Joined.append {t : List Char} (hs : Joined mark s) (ht : Joined mark t) :
    Joined mark (s ++ mark :: t) := by
  intro c hc
  rcases List.mem_append.mp hc with hc | hc
  · exact hs c hc
  · rcases List.mem_cons.mp hc with rfl | hc
    · exact .inr rfl
    · exact ht c hc

theorem toNat_of_isDigit {c : Char} (h : c.isDigit = true) : 48 ≤ c.toNat ∧ c.toNat ≤ 57 := by
  simpa [Char.isDigit, UInt32.le_iff_toNat_le] using h

theorem isBlank_of_isDigit {c : Char} (h : c.isDigit = true) : isBlank c = false := by
  have hrange := toNat_of_isDigit h
  rw [Bool.eq_false_iff]
  intro hblank
  simp only [isBlank, Bool.or_eq_true, Bool.and_eq_true, decide_eq_true_eq, List.mem_cons,
    List.not_mem_nil, or_false] at hblank
  omega

theorem isUpper_of_isDigit {c : Char} (h : c.isDigit = true) : c.isUpper = false := by
  have hrange := toNat_of_isDigit h
  rw [Bool.eq_false_iff]
  intro hupper
  have : 65 ≤ c.toNat ∧ c.toNat ≤ 90 := by
    simpa [UInt32.le_iff_toNat_le] using isUpper_iff.mp hupper
  omega

theorem Joined.trim (h : Joined mark s) (hmark : isBlank mark = false) : trim s = s :=
  trim_eq_self fun c hc ↦ (h c hc).elim isBlank_of_isDigit (fun hc ↦ hc ▸ hmark)

theorem Joined.lower (h : Joined mark s) (hmark : mark.isUpper = false) : lower s = s :=
  lower_eq_self fun c hc ↦ (h c hc).elim isUpper_of_isDigit (fun hc ↦ hc ▸ hmark)

theorem Joined.lookup {α : Type} {names : List (String × α)} (h : Joined mark s)
    (hnames : names.all (·.1.toList.any fun c ↦ !c.isDigit && c != mark) = true) :
    names.lookup (String.ofList s) = none := by
  rw [List.lookup_eq_none_iff]
  intro entry hentry
  obtain ⟨c, hc, hother⟩ := List.any_eq_true.mp (List.all_eq_true.mp hnames entry hentry)
  simp only [Bool.and_eq_true, Bool.not_eq_true', bne_iff_ne] at hother
  rw [bne_iff_ne]
  intro heq
  rw [← heq, String.toList_ofList] at hc
  exact (h c hc).elim (by simp [hother.1]) hother.2

end Text

open Text

theorem ne_of_mem_toDigits {n : Nat} {c d : Char} (hc : c ∈ Nat.toDigits 10 n)
    (hd : d.isDigit = false) : c ≠ d := by
  rintro rfl
  simp [isDigit_of_mem_toDigits hc] at hd

namespace FrameRate

theorem toList_toString (rate : FrameRate) : (toString rate).toList =
    if rate.den = 1 then Nat.toDigits 10 rate.num
    else Nat.toDigits 10 rate.num ++ '/' :: Nat.toDigits 10 rate.den := by
  change (if rate.den = 1 then s!"{rate.num}" else s!"{rate.num}/{rate.den}").toList = _
  split
  · simp
  · simp [show (toString "/").toList = ['/'] from rfl]

theorem ofFraction?_self (rate : FrameRate) : ofFraction? rate.num rate.den = some rate := by
  have hnum : rate.num / rate.num.gcd rate.den = rate.num := by rw [rate.coprime, Nat.div_one]
  have hden : rate.den / rate.num.gcd rate.den = rate.den := by rw [rate.coprime, Nat.div_one]
  rw [ofFraction?, dif_pos ⟨⟨rate.num_pos, rate.den_pos⟩, by rw [hnum]; exact rate.num_lt,
    by rw [hden]; exact rate.den_lt⟩]
  exact congrArg some (FrameRate.ext hnum hden)

theorem word?_toDigits {n : Nat} (h : n < 0x100000000) : word? (Nat.toDigits 10 n) = some n := by
  rw [word?, Numeral.readNat_toDigits (Nat.le_of_lt_succ h)]
  rfl

theorem ratio?_toDigits (rate : FrameRate) :
    ratio? (Nat.toDigits 10 rate.num) (Nat.toDigits 10 rate.den) = some rate := by
  have htrim (n : Nat) : trim (Nat.toDigits 10 n) = Nat.toDigits 10 n :=
    trim_eq_self fun c hc ↦ isBlank_of_isDigit (isDigit_of_mem_toDigits hc)
  rw [ratio?, htrim, htrim, word?_toDigits rate.num_lt, word?_toDigits rate.den_lt]
  exact ofFraction?_self rate

theorem named?_of_joined {s : List Char} (h : Joined '/' s) : named? s = none := by
  rw [named?, h.lower (by decide)]
  exact h.lookup (by decide)

theorem joined_toString (rate : FrameRate) : Joined '/' (toString rate).toList := by
  rw [toList_toString]
  split
  · exact joined_toDigits rate.num
  · exact (joined_toDigits rate.num).append (joined_toDigits rate.den)

theorem read?_toString (rate : FrameRate) : read? (toString rate).toList = some rate := by
  have hmark : ∀ c ∈ Nat.toDigits 10 rate.num, (decide (c = '/') || decide (c = ':')) = false := by
    intro c hc
    simp [ne_of_mem_toDigits hc]
  rw [read?, named?_of_joined (joined_toString rate), toList_toString]
  by_cases hden : rate.den = 1
  · have hpoint : ∀ c ∈ Nat.toDigits 10 rate.num, decide (c = '.') = false :=
      fun c hc ↦ decide_eq_false (ne_of_mem_toDigits hc (by decide))
    simp only [if_pos hden, cut?_eq_none hmark, cut?_eq_none hpoint, whole?,
      word?_toDigits rate.num_lt]
    exact hden ▸ ofFraction?_self rate
  · rw [if_neg hden, cut?_append hmark (by decide)]
    exact ratio?_toDigits rate

theorem parse_toString (rate : FrameRate) : parse (toString rate) = .ok rate := by
  rw [parse, (joined_toString rate).trim (by decide), read?_toString]

end FrameRate

namespace VideoSize

theorem width_sides (size : VideoSize) : size.sides.width.toNat = size.width :=
  UInt32.toNat_ofNat_of_lt' size.width_lt

theorem height_sides (size : VideoSize) : size.sides.height.toNat = size.height :=
  UInt32.toNat_ofNat_of_lt' size.height_lt

theorem toString_sides (size : VideoSize) : toString size.sides = toString size := by
  change s!"{size.sides.width.toNat}x{size.sides.height.toNat}" = _
  rw [width_sides, height_sides]
  rfl

theorem toList_toString (size : VideoSize) : (toString size).toList =
    Nat.toDigits 10 size.width ++ 'x' :: Nat.toDigits 10 size.height := by
  change (s!"{size.width}x{size.height}").toList = _
  simp [show (toString "x").toList = ['x'] from rfl]

theorem joined_toString (size : VideoSize) : Joined 'x' (toString size).toList := by
  rw [toList_toString]
  exact (joined_toDigits size.width).append (joined_toDigits size.height)

theorem word?_toDigits {n : Nat} (h : n < 0x100000000) : word? (Nat.toDigits 10 n) = some n := by
  rw [word?, Numeral.readNat_toDigits (Nat.le_of_lt_succ h)]
  rfl

theorem ofDimensions?_self (size : VideoSize) :
    ofDimensions? size.width size.height = some size := by
  rw [ofDimensions?, dif_pos ⟨⟨size.width_pos, size.height_pos⟩, size.width_lt, size.height_lt⟩]

theorem named?_of_joined {s : List Char} (h : Joined 'x' s) : named? s = none := by
  rw [named?, h.lower (by decide)]
  exact h.lookup (by decide)

theorem read?_toString (size : VideoSize) : read? (toString size).toList = some size := by
  have hmark : ∀ c ∈ Nat.toDigits 10 size.width,
      (decide (c = 'x') || decide (c = 'X')) = false := by
    intro c hc
    simp [ne_of_mem_toDigits hc]
  rw [read?, named?_of_joined (joined_toString size), toList_toString,
    cut?_append hmark (by decide)]
  simp only [word?_toDigits size.width_lt, word?_toDigits size.height_lt]
  exact ofDimensions?_self size

theorem parse_toString (size : VideoSize) : parse (toString size) = .ok size := by
  rw [parse, (joined_toString size).trim (by decide), read?_toString]

end VideoSize

end ScreenCapture

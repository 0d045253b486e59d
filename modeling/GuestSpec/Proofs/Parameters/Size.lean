import GuestSpec.Parameters.Size
import GuestSpec.Proofs.Text.Numeral
import GuestSpec.Proofs.Text.Split
import GuestSpec.Proofs.Text.Trim

/-!
# Sizes that are read exactly

A size is a decimal number and a unit, and it is read when it is a whole number of mebibytes that
can be counted in 64 bits in the last digit of the number. Reading never rounds, and none of its
steps leaves the 64 bits.
-/

namespace GuestSpec.Size

open Text Numeral

/-! ## The form of a size -/

/-- A number in front of a unit, its value, and how many digits it has behind its point: digits, or
up to six digits behind a point with any digits before it. -/
inductive IsNumber : List Char → ℚ → Nat → Prop where
  | whole {s : List Char} {n : Nat} : IsDecimal s n → IsNumber s n 0
  | point {whole fraction : List Char} {n : Nat} : (∀ c ∈ whole, c.isDigit = true) →
      IsDecimal fraction n → fraction.length ≤ 6 →
      IsNumber (whole ++ '.' :: fraction)
        (Nat.ofDigitChars 10 whole 0 + n / 10 ^ fraction.length) fraction.length

def unitLetters : List (Char × Nat) := [('k', 1), ('m', 2 ^ 10), ('g', 2 ^ 20), ('t', 2 ^ 30)]

/-- A unit and the kibibytes in it: nothing for mebibytes, or a letter that may have `ib` behind it,
in upper or lower case. -/
def IsUnit (s : List Char) (kib : Nat) : Prop :=
  s = [] ∧ kib = 2 ^ 10 ∨
    ∃ c, (c, kib) ∈ unitLetters ∧ (s.map Char.toLower = [c] ∨ s.map Char.toLower = [c, 'i', 'b'])

/-- A text, blanks at its ends aside, is a number and a unit that together are a number of
mebibytes. Counted in the last digit of the number, the kibibytes are a number of 64 bits. -/
def IsSize (raw : String) (mib : Nat) : Prop :=
  ∃ number blanks unit x d kib, Chars.trim raw.toList = number ++ (blanks ++ unit) ∧
    IsNumber number x d ∧ (∀ c ∈ blanks, isBlank c = true) ∧ IsUnit unit kib ∧
    x * kib = 1024 * mib ∧ x * kib * 10 ^ d < 2 ^ 64

/-! ## Units -/

theorem unit?_eq_some_iff {s : List Char} {kib : Nat} :
    unit? s = some kib ↔
      s = [] ∧ kib = 2 ^ 10 ∨ ∃ c, (c, kib) ∈ unitLetters ∧ (s = [c] ∨ s = [c, 'i', 'b']) := by
  constructor
  · intro h
    unfold unit? at h
    split at h
    case h_1 => exact .inl ⟨rfl, (Option.some.inj h).symm⟩
    case h_10 => cases h
    all_goals
      obtain rfl := Option.some.inj h
      refine .inr ⟨_, ?_, by first | exact .inl rfl | exact .inr rfl⟩
      decide
  · rintro (⟨rfl, rfl⟩ | ⟨c, hc, hs⟩)
    · rfl
    · have hletters : ∀ u ∈ unitLetters,
          unit? [u.1] = some u.2 ∧ unit? [u.1, 'i', 'b'] = some u.2 := by
        decide
      obtain rfl | rfl := hs
      · exact (hletters _ hc).1
      · exact (hletters _ hc).2

theorem isUnit_iff {s : List Char} {kib : Nat} :
    IsUnit s kib ↔ unit? (s.map Char.toLower) = some kib := by
  rw [unit?_eq_some_iff, List.map_eq_nil_iff]
  rfl

theorem not_blank_of_letter {c : Char} (h : c.toLower.isLower = true) :
    isBlank c = false ∧ isNumberChar c = false := by
  have hrange : 65 ≤ c.toNat ∧ c.toNat ≤ 90 ∨ 97 ≤ c.toNat ∧ c.toNat ≤ 122 := by
    unfold Char.toLower at h
    split at h
    · next hupper => exact .inl hupper
    · have hlower : 97 ≤ c.val ∧ c.val ≤ 122 := by simpa [Char.isLower] using h
      exact .inr hlower
  have hdot : c ≠ '.' := by
    rintro rfl
    exact absurd hrange (by decide)
  constructor
  · exact Chars.not_isBlank (by omega) (by omega)
  · have hdigit : c.isDigit = false := by
      rw [Bool.eq_false_iff, ne_eq, Char.isDigit_iff_toNat]
      simp only [Char.reduceToNat]
      omega
    simp [isNumberChar, hdigit, hdot]

theorem IsUnit.letters {s : List Char} {kib : Nat} (h : IsUnit s kib) :
    ∀ c ∈ s, isBlank c = false ∧ isNumberChar c = false := by
  intro c hc
  have hlower : c.toLower ∈ s.map Char.toLower := List.mem_map_of_mem hc
  refine not_blank_of_letter ?_
  obtain ⟨rfl, -⟩ | ⟨letter, hletter, hs⟩ := h
  · cases hc
  · have hmem : c.toLower ∈ [letter, 'i', 'b'] := by
      obtain hs | hs := hs
      · exact List.mem_cons.2 (.inl (List.mem_singleton.1 (hs ▸ hlower)))
      · exact hs ▸ hlower
    simp only [List.mem_cons, List.not_mem_nil, or_false] at hmem
    obtain hc | hc | hc := hmem
    · rw [hc]
      exact (by decide : ∀ u ∈ unitLetters, u.1.isLower = true) _ hletter
    · rw [hc]
      rfl
    · rw [hc]
      rfl

/-! ## Numbers -/

theorem word?_eq_some_iff {n m : Nat} : word? n = some m ↔ n ≤ maxWord ∧ n = m := by
  simp [word?]

theorem isNumberChar_iff {c : Char} : isNumberChar c = true ↔ c.isDigit = true ∨ c = '.' := by
  simp [isNumberChar]

theorem not_isNumberChar_of_isBlank {c : Char} (h : isBlank c = true) :
    isNumberChar c = false := by
  rw [Bool.eq_false_iff, ne_eq, isNumberChar_iff]
  rintro (hdigit | rfl)
  · have hrange : 48 ≤ c.toNat ∧ c.toNat ≤ 57 := Char.isDigit_iff_toNat.1 hdigit
    rw [Chars.not_isBlank (by omega) (by omega)] at h
    cases h
  · exact absurd h (by decide)

theorem IsNumber.isNumberChar {s : List Char} {x : ℚ} {d : Nat} (h : IsNumber s x d) :
    ∀ c ∈ s, isNumberChar c = true := by
  intro c hc
  rw [isNumberChar_iff]
  cases h with
  | whole h => exact .inl (h.isDigit c hc)
  | point hwhole hfraction _ =>
    obtain hc | hc := List.mem_append.1 hc
    · exact .inl (hwhole c hc)
    · exact (List.mem_cons.1 hc).symm.imp_left (hfraction.isDigit c)

theorem IsNumber.ne_nil {s : List Char} {x : ℚ} {d : Nat} (h : IsNumber s x d) : s ≠ [] := by
  cases h with
  | whole h => exact h.ne_nil
  | point _ _ _ => exact List.append_ne_nil_of_right_ne_nil _ (List.cons_ne_nil _ _)

theorem unsigned?_iff {s : List Char} (hs : ∀ c ∈ s, Size.isNumberChar c = true) {n : Nat} :
    unsigned? 10 maxWord s = some n ↔ n ≤ maxWord ∧ IsDecimal s n := by
  rw [unsigned?_eq_some_iff, or_iff_left]
  rintro ⟨digits, rfl, -⟩
  exact absurd (hs '+' List.mem_cons_self) (by decide)

theorem kibibytes?_whole {factor : Nat} {number : List Char} {k : Nat}
    (hfactor : 0 < factor) (hnumber : ∀ c ∈ number, Size.isNumberChar c = true)
    (hpoint : Chars.splitFirst? '.' number = none) :
    kibibytes? factor number = some k ↔
      ∃ n, IsDecimal number n ∧ n * factor ≤ maxWord ∧ n * factor = k := by
  rw [kibibytes?, hpoint]
  simp only [Option.bind_eq_bind, Option.bind_eq_some_iff, unsigned?_iff hnumber, word?_eq_some_iff]
  constructor
  · rintro ⟨n, ⟨-, hn⟩, hle, hk⟩
    exact ⟨n, hn, hle, hk⟩
  · rintro ⟨n, hn, hle, hk⟩
    exact ⟨n, ⟨(Nat.le_mul_of_pos_right n hfactor).trans hle, hn⟩, hle, hk⟩

def wholePart? (s : List Char) : Option Nat := if s.isEmpty then some 0 else unsigned? 10 maxWord s

def scaled? (factor scale : Nat) (whole fraction : List Char) : Option Nat := do
  let whole ← wholePart? whole
  let fraction ← unsigned? 10 maxWord fraction
  word? ((← word? ((← word? (whole * scale)) + fraction)) * factor)

theorem wholePart?_eq_some_iff {s : List Char} (hs : ∀ c ∈ s, Size.isNumberChar c = true)
    {n : Nat} :
    wholePart? s = some n ↔
      n ≤ maxWord ∧ (∀ c ∈ s, c.isDigit = true) ∧ Nat.ofDigitChars 10 s 0 = n := by
  unfold wholePart?
  cases s with
  | nil =>
    refine ⟨fun h => ?_, fun h => congrArg some h.2.2⟩
    obtain rfl := Option.some.inj h
    exact ⟨Nat.zero_le _, nofun, rfl⟩
  | cons c s =>
    rw [if_neg (by simp), unsigned?_iff hs]
    exact and_congr_right fun _ => ⟨fun h => ⟨h.isDigit, h.value⟩, fun h => ⟨nofun, h.1, h.2⟩⟩

theorem scaled?_eq_some_iff {factor scale : Nat} {whole fraction : List Char} {r : Nat}
    (hfactor : 0 < factor) (hscale : 0 < scale)
    (hwhole : ∀ c ∈ whole, Size.isNumberChar c = true)
    (hfraction : ∀ c ∈ fraction, Size.isNumberChar c = true) :
    scaled? factor scale whole fraction = some r ↔
      ∃ n, (∀ c ∈ whole, c.isDigit = true) ∧ IsDecimal fraction n ∧
        (Nat.ofDigitChars 10 whole 0 * scale + n) * factor = r ∧ r ≤ maxWord := by
  simp only [scaled?, Option.bind_eq_bind, Option.bind_eq_some_iff, wholePart?_eq_some_iff hwhole,
    unsigned?_iff hfraction, word?_eq_some_iff]
  constructor
  · rintro ⟨w, ⟨-, hdigits, rfl⟩, n, ⟨-, hn⟩, _, ⟨-, rfl⟩, _, ⟨-, rfl⟩, hle, rfl⟩
    exact ⟨n, hdigits, hn, rfl, hle⟩
  · rintro ⟨n, hdigits, hn, rfl, hle⟩
    -- what comes before a product or a sum is not larger
    have hsum := (Nat.le_mul_of_pos_right _ hfactor).trans hle
    have hproduct := (Nat.le_add_right _ _).trans hsum
    exact ⟨_, ⟨(Nat.le_mul_of_pos_right _ hscale).trans hproduct, hdigits, rfl⟩, n,
      ⟨(Nat.le_add_left _ _).trans hsum, hn⟩, _, ⟨hproduct, rfl⟩, _, ⟨hsum, rfl⟩, hle, rfl⟩

theorem kibibytes?_eq {factor : Nat} {number whole fraction : List Char}
    (hpoint : Chars.splitFirst? '.' number = some (whole, fraction)) :
    kibibytes? factor number =
      if fraction.isEmpty ∨ 6 < fraction.length then none
      else (scaled? factor (10 ^ fraction.length) whole fraction).bind fun scaled =>
        if scaled % 10 ^ fraction.length ≠ 0 then none
        else some (scaled / 10 ^ fraction.length) := by
  rw [kibibytes?, hpoint, scaled?, wholePart?]
  dsimp only
  split
  · rfl
  · -- where no digits are before the point, what follows stands in the branch
    cases whole with
    | nil =>
      simp only [Option.bind_eq_bind, Option.bind_assoc]
      rfl
    | cons c whole =>
      simp only [Option.bind_eq_bind, Option.bind_assoc]
      rfl

theorem kibibytes?_point {factor : Nat} {number whole fraction : List Char} {k : Nat}
    (hfactor : 0 < factor) (hnumber : ∀ c ∈ number, Size.isNumberChar c = true)
    (hpoint : Chars.splitFirst? '.' number = some (whole, fraction)) :
    kibibytes? factor number = some k ↔
      ∃ n, (∀ c ∈ whole, c.isDigit = true) ∧ IsDecimal fraction n ∧ fraction.length ≤ 6 ∧
        (Nat.ofDigitChars 10 whole 0 * 10 ^ fraction.length + n) * factor =
          k * 10 ^ fraction.length ∧ k * 10 ^ fraction.length ≤ maxWord := by
  obtain ⟨rfl, -⟩ := Chars.splitFirst?_eq_some_iff.1 hpoint
  have hwhole : ∀ c ∈ whole, Size.isNumberChar c = true :=
    fun c hc => hnumber c (List.mem_append_left _ hc)
  have hfraction : ∀ c ∈ fraction, Size.isNumberChar c = true :=
    fun c hc => hnumber c (List.mem_append_right _ (List.mem_cons_of_mem _ hc))
  have hscale : 0 < 10 ^ fraction.length := Nat.pow_pos (by decide)
  rw [kibibytes?_eq hpoint]
  split
  · next hlength =>
    refine iff_of_false nofun ?_
    rintro ⟨n, -, hn, hle, -⟩
    obtain hempty | hlong := hlength
    · exact hn.ne_nil (List.isEmpty_iff.1 hempty)
    · exact absurd hle (Nat.not_le.2 hlong)
  · next hlength =>
    have hsix : fraction.length ≤ 6 := Nat.le_of_not_lt (not_or.1 hlength).2
    simp only [Option.bind_eq_some_iff, scaled?_eq_some_iff hfactor hscale hwhole hfraction]
    constructor
    · rintro ⟨r, ⟨n, hdigits, hn, rfl, hle⟩, hk⟩
      split at hk
      · cases hk
      · next hmod =>
        have hexact := Nat.div_mul_cancel (Nat.dvd_of_mod_eq_zero (not_not.1 hmod))
        rw [Option.some.inj hk] at hexact
        exact ⟨n, hdigits, hn, hsix, hexact.symm, hexact ▸ hle⟩
    · rintro ⟨n, hdigits, hn, -, heq, hle⟩
      refine ⟨_, ⟨n, hdigits, hn, heq, hle⟩, ?_⟩
      rw [if_neg (by simp), Nat.mul_div_cancel _ hscale]

theorem exact_iff {x : ℚ} {d a factor k : Nat} (hx : x * 10 ^ d = a) :
    x * factor = k ∧ x * factor * 10 ^ d < 2 ^ 64 ↔
      a * factor = k * 10 ^ d ∧ k * 10 ^ d ≤ maxWord := by
  have hscaled : x * factor * 10 ^ d = (a * factor : Nat) := by
    rw [mul_right_comm, hx, Nat.cast_mul]
  have hvalue : x * factor = k ↔ a * factor = k * 10 ^ d := by
    rw [← mul_left_inj' (pow_ne_zero d (by norm_num : (10 : ℚ) ≠ 0)), hscaled]
    exact_mod_cast Iff.rfl
  rw [hvalue, hscaled]
  refine and_congr_right fun h => ?_
  rw [h]
  have hbound : ((k * 10 ^ d : Nat) : ℚ) < 2 ^ 64 ↔ k * 10 ^ d < 2 ^ 64 := by exact_mod_cast Iff.rfl
  rw [hbound]
  exact Nat.lt_succ_iff

theorem kibibytes?_eq_some_iff {factor : Nat} {number : List Char} {k : Nat}
    (hfactor : 0 < factor) (hnumber : ∀ c ∈ number, Size.isNumberChar c = true) :
    kibibytes? factor number = some k ↔
      ∃ x d, IsNumber number x d ∧ x * factor = k ∧ x * factor * 10 ^ d < 2 ^ 64 := by
  cases hpoint : Chars.splitFirst? '.' number with
  | none =>
    have hwhole : ∀ n : Nat, (n : ℚ) * factor = k ∧ (n : ℚ) * factor * 10 ^ 0 < 2 ^ 64 ↔
        n * factor ≤ maxWord ∧ n * factor = k := by
      intro n
      rw [exact_iff (by simp : (n : ℚ) * 10 ^ 0 = n), pow_zero, Nat.mul_one]
      exact ⟨fun h => ⟨h.1 ▸ h.2, h.1⟩, fun h => ⟨h.2, h.2 ▸ h.1⟩⟩
    rw [kibibytes?_whole hfactor hnumber hpoint]
    constructor
    · rintro ⟨n, hn, hk⟩
      exact ⟨n, 0, .whole hn, (hwhole n).2 hk⟩
    · rintro ⟨x, d, hx, hk⟩
      cases hx with
      | whole hn => exact ⟨_, hn, (hwhole _).1 hk⟩
      | point => exact absurd (by simp) (Chars.splitFirst?_eq_none_iff.1 hpoint)
  | some parts =>
    obtain ⟨whole, fraction⟩ := parts
    have hvalue : ∀ (w n l : Nat), ((w : ℚ) + n / 10 ^ l) * 10 ^ l = (w * 10 ^ l + n : Nat) := by
      intro w n l
      push_cast
      field_simp
    rw [kibibytes?_point hfactor hnumber hpoint]
    constructor
    · rintro ⟨n, hwhole, hn, hle, hk⟩
      obtain ⟨rfl, -⟩ := Chars.splitFirst?_eq_some_iff.1 hpoint
      exact ⟨_, _, .point hwhole hn hle, (exact_iff (hvalue _ _ _)).2 hk⟩
    · rintro ⟨x, d, hx, hk⟩
      cases hx with
      | whole hn =>
        obtain ⟨rfl, -⟩ := Chars.splitFirst?_eq_some_iff.1 hpoint
        exact absurd (hn.isDigit '.' (by simp)) (by decide)
      | point hwhole hn hle =>
        have hnone : '.' ∉ _ := fun hmem => absurd (hwhole '.' hmem) (by decide)
        rw [Chars.splitFirst?_append hnone] at hpoint
        obtain ⟨rfl, rfl⟩ := Prod.mk.inj (Option.some.inj hpoint)
        exact ⟨_, hwhole, hn, hle, (exact_iff (hvalue _ _ _)).1 hk⟩

/-! ## The whole text -/

/-- A text that starts with a number is read in its two parts. -/
theorem mebibytes?_of_append {raw : String} {number rest : List Char}
    (hraw : Chars.trim raw.toList = number ++ rest)
    (hnumber : ∀ c ∈ number, Size.isNumberChar c = true)
    (hrest : ∀ c ∈ rest.head?, Size.isNumberChar c = false) {m : UInt64} :
    mebibytes? raw = some m ↔ number ≠ [] ∧
      ∃ factor, unit? ((Chars.trim rest).map Char.toLower) = some factor ∧
        ∃ kib, kibibytes? factor number = some kib ∧ kib % 1024 = 0 ∧
          UInt64.ofNat (kib / 1024) = m := by
  have htake : (Chars.trim raw.toList).takeWhile Size.isNumberChar = number :=
    hraw ▸ Chars.takeWhile_append hnumber hrest
  have hdrop : (Chars.trim raw.toList).dropWhile Size.isNumberChar = rest :=
    hraw ▸ Chars.dropWhile_append hnumber hrest
  simp only [mebibytes?, htake, hdrop, Option.bind_eq_bind]
  by_cases hempty : number = []
  · simp [hempty]
  · simp [hempty, Option.bind_eq_some_iff]

theorem IsUnit.pos {s : List Char} {kib : Nat} (h : IsUnit s kib) : 0 < kib := by
  obtain ⟨-, rfl⟩ | ⟨c, hc, -⟩ := h
  · decide
  · exact (by decide : ∀ u ∈ unitLetters, 0 < u.2) _ hc

theorem mebibytes?_iff_isSize (raw : String) (m : UInt64) :
    mebibytes? raw = some m ↔ IsSize raw m.toNat := by
  constructor
  · intro h
    let s := Chars.trim raw.toList
    have hraw : s = s.takeWhile Size.isNumberChar ++ s.dropWhile Size.isNumberChar :=
      List.takeWhile_append_dropWhile.symm
    have hnumber : ∀ c ∈ s.takeWhile Size.isNumberChar, Size.isNumberChar c = true :=
      fun c hc => List.mem_takeWhile_imp hc
    have hrest : ∀ c ∈ (s.dropWhile Size.isNumberChar).head?, Size.isNumberChar c = false :=
      Chars.head?_dropWhile _ s
    obtain ⟨-, factor, hunit, kib, hkib, hmod, rfl⟩ := (mebibytes?_of_append hraw hnumber hrest).1 h
    obtain ⟨blanks, hblanks, hrest⟩ := Chars.exists_eq_append_trim
      (Chars.getLast?_of_suffix (List.dropWhile_suffix Size.isNumberChar)
        (Chars.isTrimmed_trim raw.toList).last)
    have hunit := isUnit_iff.2 hunit
    obtain ⟨x, d, hx, hvalue, hbound⟩ := (kibibytes?_eq_some_iff hunit.pos hnumber).1 hkib
    refine ⟨_, blanks, _, x, d, factor, ?_, hx, hblanks, hunit, ?_, hbound⟩
    · rw [← hrest]
      exact hraw
    · have hscaled : kib * 10 ^ d < 2 ^ 64 := by
        rw [hvalue] at hbound
        exact_mod_cast hbound
      have hkib : kib < 2 ^ 64 :=
        (Nat.le_mul_of_pos_right _ (Nat.pow_pos (by decide))).trans_lt hscaled
      rw [hvalue, UInt64.toNat_ofNat_of_lt' (by change _ < 2 ^ 64; omega)]
      exact_mod_cast (Nat.mul_div_cancel' (Nat.dvd_of_mod_eq_zero hmod)).symm
  · rintro ⟨number, blanks, unit, x, d, kib, hraw, hnumber, hblanks, hunit, hm, hbound⟩
    have hrest : ∀ c ∈ (blanks ++ unit).head?, Size.isNumberChar c = false := by
      intro c hc
      obtain hc | hc := List.mem_append.1 (List.mem_of_head? hc)
      · exact not_isNumberChar_of_isBlank (hblanks c hc)
      · exact (hunit.letters c hc).2
    rw [mebibytes?_of_append hraw hnumber.isNumberChar hrest]
    rw [Chars.trim_append hblanks (Chars.isTrimmed_of_forall fun c hc => (hunit.letters c hc).1)]
    refine ⟨hnumber.ne_nil, kib, isUnit_iff.1 hunit, 1024 * m.toNat, ?_, by simp, by simp⟩
    rw [kibibytes?_eq_some_iff hunit.pos hnumber.isNumberChar]
    exact ⟨x, d, hnumber, by exact_mod_cast hm, hbound⟩

end GuestSpec.Size

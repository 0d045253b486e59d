import GuestSpec.Text.Numeral
import Mathlib

/-!
# Numerals that are read back

The digits that are written for a number are read as this number, also behind zeros that fill it up
to a width.
-/

namespace GuestSpec.Numeral

theorem digitValue?_digitChar : ∀ d < 36, digitValue? (digitChar d) = some d := by decide

theorem digit?_digitChar {base d : Nat} (hbase : base ≤ 36) (h : d < base) :
    digit? base (digitChar d) = some d := by
  rw [digit?, digitValue?_digitChar d (by omega)]
  exact if_pos h

theorem accumulate?_digitChar {base d : Nat} (hbase : base ≤ 36) (h : d < base) (acc : Nat)
    (s : List Char) :
    accumulate? base acc (digitChar d :: s) = accumulate? base (acc * base + d) s := by
  rw [accumulate?, digit?_digitChar hbase h]

section Digits

variable {base : Nat} (hbase : 2 ≤ base)

theorem digitsOnto_eq_append (base fuel n : Nat) (acc : List Char) :
    digitsOnto base fuel n acc = digitsOnto base fuel n [] ++ acc := by
  induction fuel generalizing n acc with
  | zero => rfl
  | succ fuel ih =>
    rw [digitsOnto, digitsOnto]
    split
    · rfl
    · rw [ih (n / base) (digitChar (n % base) :: acc), ih (n / base) [digitChar (n % base)],
        List.append_assoc]
      rfl

theorem digitsOnto_ne_nil {fuel n : Nat} (h : n < fuel) : digitsOnto base fuel n [] ≠ [] := by
  cases fuel with
  | zero => exact absurd h (Nat.not_lt_zero n)
  | succ fuel =>
    rw [digitsOnto]
    split
    · exact List.cons_ne_nil _ _
    · rw [digitsOnto_eq_append]
      exact List.append_ne_nil_of_right_ne_nil _ (List.cons_ne_nil _ _)

include hbase

theorem lt_fuel_div {fuel n : Nat} (h : n < fuel + 1) (hn : ¬ n < base) : n / base < fuel := by
  have hlt : n / base < n := Nat.div_lt_self (by omega) (by omega)
  omega

/-- The digits of a number are read as the number, whatever stands behind them. -/
theorem accumulate?_digitsOnto (hmax : base ≤ 36) {fuel n : Nat} (h : n < fuel) (s : List Char) :
    accumulate? base 0 (digitsOnto base fuel n s) = accumulate? base n s := by
  induction fuel generalizing n s with
  | zero => exact absurd h (Nat.not_lt_zero n)
  | succ fuel ih =>
    rw [digitsOnto]
    split
    · next hn => rw [accumulate?_digitChar hmax hn, Nat.zero_mul, Nat.zero_add]
    · next hn =>
      have hdigit : n % base < base := Nat.mod_lt n (by omega)
      rw [ih (lt_fuel_div hbase h hn), accumulate?_digitChar hmax hdigit, Nat.div_add_mod']

theorem mem_digitsOnto {fuel n : Nat} (h : n < fuel) :
    ∀ c ∈ digitsOnto base fuel n [], ∃ d < base, c = digitChar d := by
  induction fuel generalizing n with
  | zero => exact absurd h (Nat.not_lt_zero n)
  | succ fuel ih =>
    intro c hc
    rw [digitsOnto] at hc
    split at hc
    · next hn => exact ⟨n, hn, List.mem_singleton.1 hc⟩
    · next hn =>
      rw [digitsOnto_eq_append, List.mem_append] at hc
      obtain hc | hc := hc
      · exact ih (lt_fuel_div hbase h hn) c hc
      · exact ⟨n % base, Nat.mod_lt n (by omega), List.mem_singleton.1 hc⟩

theorem digitsOnto_eq_cons {fuel n : Nat} (h : n < fuel) (hn : 0 < n) (acc : List Char) :
    ∃ d s, 0 < d ∧ d < base ∧ digitsOnto base fuel n acc = digitChar d :: s := by
  induction fuel generalizing n acc with
  | zero => exact absurd h (Nat.not_lt_zero n)
  | succ fuel ih =>
    rw [digitsOnto]
    split
    · next hlt => exact ⟨n, acc, hn, hlt, rfl⟩
    · next hbig => exact ih (lt_fuel_div hbase h hbig) (Nat.div_pos (by omega) (by omega)) _

theorem length_digitsOnto {fuel n width : Nat} (h : n < fuel) (hn : n < base ^ (width + 1)) :
    (digitsOnto base fuel n []).length ≤ width + 1 := by
  induction fuel generalizing n width with
  | zero => exact absurd h (Nat.not_lt_zero n)
  | succ fuel ih =>
    rw [digitsOnto]
    split
    · exact Nat.le_add_left 1 width
    · next hbig =>
      cases width with
      | zero => exact absurd (by simpa using hn) hbig
      | succ width =>
        have hdiv : n / base < base ^ (width + 1) := by
          rw [Nat.div_lt_iff_lt_mul (by omega), ← Nat.pow_succ]
          exact hn
        have hlength := ih (lt_fuel_div hbase h hbig) hdiv
        rw [digitsOnto_eq_append, List.length_append, List.length_singleton]
        omega

end Digits

theorem digits?_of_ne_nil (base : Nat) {s : List Char} (h : s ≠ []) :
    digits? base s = accumulate? base 0 s := by
  cases s with
  | nil => exact absurd rfl h
  | cons c s => rfl

theorem accumulate?_zeros {base : Nat} (hbase : 0 < base) (hmax : base ≤ 36) (k : Nat)
    (s : List Char) :
    accumulate? base 0 (List.replicate k '0' ++ s) = accumulate? base 0 s := by
  induction k with
  | zero => rfl
  | succ k ih =>
    have hzero := accumulate?_digitChar hmax hbase 0 (List.replicate k '0' ++ s)
    rw [Nat.zero_mul, Nat.zero_add, ih] at hzero
    exact hzero

/-! ## Texts that are numerals -/

structure IsDecimal (s : List Char) (n : Nat) : Prop where
  ne_nil : s ≠ []
  isDigit : ∀ c ∈ s, c.isDigit = true
  value : Nat.ofDigitChars 10 s 0 = n

theorem digit?_ten_eq_some_iff {c : Char} {d : Nat} :
    digit? 10 c = some d ↔ c.isDigit = true ∧ c.toNat - '0'.toNat = d := by
  have hle : ∀ a b : Char, a ≤ b ↔ a.toNat ≤ b.toNat := fun _ _ => Iff.rfl
  simp only [digit?, digitValue?, hle, Char.isDigit_iff_toNat, Char.reduceToNat]
  by_cases hdigit : 48 ≤ c.toNat ∧ c.toNat ≤ 57
  · rw [if_pos hdigit, and_iff_right hdigit]
    dsimp only
    rw [if_pos (by omega), Option.some.injEq]
  · rw [if_neg hdigit]
    refine iff_of_false (fun h => ?_) fun h => hdigit h.1
    -- a letter has at least the value ten
    split at h
    · next value hvalue =>
      split at h
      · next hten =>
        split_ifs at hvalue
        · have := Option.some.inj hvalue
          omega
        · have := Option.some.inj hvalue
          omega
      · cases h
    · cases h

theorem accumulate?_ten_eq_some_iff {s : List Char} {acc n : Nat} :
    accumulate? 10 acc s = some n ↔
      (∀ c ∈ s, c.isDigit = true) ∧ Nat.ofDigitChars 10 s acc = n := by
  induction s generalizing acc with
  | nil => simp [accumulate?]
  | cons c s ih =>
    rw [accumulate?, List.forall_mem_cons, Nat.ofDigitChars_cons, Nat.mul_comm 10 acc]
    cases hdigit : digit? 10 c with
    | none =>
      refine iff_of_false nofun fun h => ?_
      rw [digit?_ten_eq_some_iff.2 ⟨h.1.1, rfl⟩] at hdigit
      cases hdigit
    | some d =>
      obtain ⟨hc, rfl⟩ := digit?_ten_eq_some_iff.1 hdigit
      rw [ih, and_iff_right hc]

theorem digits?_eq_some_iff {s : List Char} {n : Nat} :
    digits? 10 s = some n ↔ IsDecimal s n := by
  cases s with
  | nil => exact iff_of_false nofun fun h => h.ne_nil rfl
  | cons c s =>
    rw [digits?, accumulate?_ten_eq_some_iff]
    exact ⟨fun h => ⟨List.cons_ne_nil _ _, h.1, h.2⟩, fun h => ⟨h.isDigit, h.value⟩⟩

theorem IsDecimal.ne_plus {s digits : List Char} {n : Nat} (h : IsDecimal s n) :
    s ≠ '+' :: digits := by
  rintro rfl
  exact absurd (h.isDigit '+' List.mem_cons_self) (by decide)

/-- A bounded numeral is a run of digits, with or without a plus sign before it. -/
theorem unsigned?_eq_some_iff {s : List Char} {most n : Nat} :
    unsigned? 10 most s = some n ↔
      n ≤ most ∧ (IsDecimal s n ∨ ∃ digits, s = '+' :: digits ∧ IsDecimal digits n) := by
  have hbound : ∀ body, (do let n ← digits? 10 body; if n ≤ most then some n else none) = some n ↔
      n ≤ most ∧ IsDecimal body n := by
    intro body
    rw [← digits?_eq_some_iff]
    cases digits? 10 body with
    | none => simp
    | some k =>
      by_cases hk : k ≤ most
      · simp only [Option.bind_eq_bind, Option.bind_some, if_pos hk, Option.some.injEq]
        exact ⟨fun h => ⟨h ▸ hk, h⟩, fun h => h.2⟩
      · simp only [Option.bind_eq_bind, Option.bind_some, if_neg hk, Option.some.injEq]
        exact iff_of_false nofun fun h => hk (h.2 ▸ h.1)
  unfold unsigned?
  dsimp only
  rw [hbound]
  refine and_congr_right fun _ => ?_
  split
  · next r =>
    refine ⟨fun h => .inr ⟨r, rfl, h⟩, ?_⟩
    rintro (h | ⟨digits, hdigits, h⟩)
    · exact absurd rfl h.ne_plus
    · rwa [(List.cons.inj hdigits).2]
  · next hplus =>
    refine ⟨.inl, ?_⟩
    rintro (h | ⟨digits, rfl, h⟩)
    · exact h
    · exact absurd rfl (hplus digits)

/-- A numeral of words that hold the numbers up to a largest one. -/
theorem map_unsigned?_eq_some_iff {α : Type} {toNat : α → Nat} {ofNat : Nat → α} {most : Nat}
    (hle : ∀ a, toNat a ≤ most) (hto : ∀ n ≤ most, toNat (ofNat n) = n)
    (hof : ∀ a, ofNat (toNat a) = a) {s : List Char} {a : α} :
    (unsigned? 10 most s).map ofNat = some a ↔ IsDecimal s (toNat a) ∨
      ∃ digits, s = '+' :: digits ∧ IsDecimal digits (toNat a) := by
  rw [Option.map_eq_some_iff]
  constructor
  · rintro ⟨n, hn, rfl⟩
    obtain ⟨hmost, hn⟩ := unsigned?_eq_some_iff.1 hn
    rwa [hto n hmost]
  · exact fun h => ⟨toNat a, unsigned?_eq_some_iff.2 ⟨hle a, h⟩, hof a⟩

theorem uint16?_eq_some_iff {s : String} {n : UInt16} :
    uint16? s = some n ↔ IsDecimal s.toList n.toNat ∨
      ∃ digits, s.toList = '+' :: digits ∧ IsDecimal digits n.toNat :=
  map_unsigned?_eq_some_iff (fun n => Nat.le_of_lt_succ n.toNat_lt)
    (fun _ h => UInt16.toNat_ofNat_of_lt' (Nat.lt_succ_of_le h)) fun _ => UInt16.ofNat_toNat

theorem uint64?_eq_some_iff {s : String} {n : UInt64} :
    uint64? s = some n ↔ IsDecimal s.toList n.toNat ∨
      ∃ digits, s.toList = '+' :: digits ∧ IsDecimal digits n.toNat :=
  map_unsigned?_eq_some_iff (fun n => Nat.le_of_lt_succ n.toNat_lt)
    (fun _ h => UInt64.toNat_ofNat_of_lt' (Nat.lt_succ_of_le h)) fun _ => UInt64.ofNat_toNat

/-! ## Decimal and hexadecimal numbers -/

theorem mem_decimal (n : Nat) : ∀ c ∈ decimal n, ∃ d < 10, c = digitChar d :=
  mem_digitsOnto (by decide) (Nat.lt_succ_self n)

theorem decimal_ne_nil (n : Nat) : decimal n ≠ [] := digitsOnto_ne_nil (Nat.lt_succ_self n)

theorem accumulate?_decimal (n : Nat) : accumulate? 10 0 (decimal n) = some n :=
  accumulate?_digitsOnto (by decide) (by decide) (Nat.lt_succ_self n) []

/-- A number does not start with a zero that it does not need. -/
theorem decimal_ne_zero_cons (n : Nat) (c : Char) (s : List Char) : decimal n ≠ '0' :: c :: s := by
  intro h
  cases n with
  | zero => exact absurd (congrArg List.length h) (by simp [decimal, digitsOnto])
  | succ n =>
    obtain ⟨d, t, hpos, hlt, hcons⟩ := digitsOnto_eq_cons (by decide : 2 ≤ 10)
      (Nat.lt_succ_self (n + 1)) n.succ_pos []
    have hzero : digitChar d = '0' := (List.cons.inj (hcons.symm.trans h)).1
    exact (by decide : ∀ d < 10, 0 < d → digitChar d ≠ '0') d hlt hpos hzero

theorem isDigit_of_mem_decimal {n : Nat} : ∀ c ∈ decimal n, c.isDigit = true := by
  intro c hc
  obtain ⟨d, hd, rfl⟩ := mem_decimal n c hc
  exact (by decide : ∀ d < 10, (digitChar d).isDigit = true) d hd

theorem length_hex {n width : Nat} (h : n < 16 ^ (width + 1)) : (hex n).length ≤ width + 1 :=
  length_digitsOnto (by decide) (Nat.lt_succ_self n) h

theorem length_padZeros {width : Nat} {s : List Char} (h : s.length ≤ width) :
    (padZeros width s).length = width := by
  rw [padZeros, List.length_append, List.length_replicate]
  omega

theorem digits?_padZeros_hex (width n : Nat) : digits? 16 (padZeros width (hex n)) = some n := by
  have hne : padZeros width (hex n) ≠ [] :=
    List.append_ne_nil_of_right_ne_nil _ (digitsOnto_ne_nil (Nat.lt_succ_self n))
  rw [digits?_of_ne_nil 16 hne, padZeros, accumulate?_zeros (by decide) (by decide)]
  exact accumulate?_digitsOnto (by decide) (by decide) (Nat.lt_succ_self n) []

theorem mem_padZeros_hex {width n : Nat} :
    ∀ c ∈ padZeros width (hex n), ∃ d < 16, c = digitChar d := by
  intro c hc
  rw [padZeros, List.mem_append] at hc
  obtain hc | hc := hc
  · exact ⟨0, by decide, List.eq_of_mem_replicate hc⟩
  · exact mem_digitsOnto (by decide) (Nat.lt_succ_self n) c hc

end GuestSpec.Numeral

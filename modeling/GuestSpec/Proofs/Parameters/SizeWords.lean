import GuestSpec.Proofs.Parameters.Size

/-!
# Sizes in words

A size is reckoned in words of 64 bits. Sums and products are checked, and one that does not fit
is no size. The other operations are not: a power that does not fit and a division by zero would be
faults. Reckoning in words is reckoning in numbers, and there are no faults.
-/

namespace GuestSpec.Size

open Text Numeral

/-! ## Words -/

/-- What goes wrong in an operation that is not checked. -/
inductive Fault where
  | overflow
  | zeroDivisor

/-- Reckoning that may find that there is no size. -/
abbrev Reckoning := OptionT (Except Fault)

def checked (exact : Nat) (word : UInt64) : Reckoning UInt64 :=
  if exact < UInt64.size then pure word else failure

def checkedAdd (a b : UInt64) : Reckoning UInt64 := checked (a.toNat + b.toNat) (a + b)

def checkedMul (a b : UInt64) : Reckoning UInt64 := checked (a.toNat * b.toNat) (a * b)

def power (a : UInt64) (n : Nat) : Reckoning UInt64 :=
  if a.toNat ^ n < UInt64.size then pure (a ^ n) else throwThe Fault .overflow

def exactQuotient (a b : UInt64) : Reckoning UInt64 :=
  if b = 0 then throwThe Fault .zeroDivisor else if a % b ≠ 0 then failure else pure (a / b)

def given (n : Option Nat) : Reckoning UInt64 := OptionT.mk (pure (n.map UInt64.ofNat))

def wholeInWords (s : List Char) : Reckoning UInt64 :=
  if s.isEmpty then pure 0 else given (unsigned? 10 maxWord s)

def scaledInWords (factor scale : UInt64) (whole fraction : List Char) : Reckoning UInt64 := do
  let whole ← wholeInWords whole
  let fraction ← given (unsigned? 10 maxWord fraction)
  checkedMul (← checkedAdd (← checkedMul whole scale) fraction) factor

def kibibytesInWords (factor : UInt64) (number : List Char) : Reckoning UInt64 :=
  match Chars.splitFirst? '.' number with
  | none => do checkedMul (← given (unsigned? 10 maxWord number)) factor
  | some (whole, fraction) =>
    if fraction.isEmpty ∨ 6 < fraction.length then failure
    else do
      let scale ← power 10 fraction.length
      exactQuotient (← scaledInWords factor scale whole fraction) scale

def mebibytesInWords (raw : String) : Reckoning UInt64 :=
  let raw := Chars.trim raw.toList
  let number := raw.takeWhile isNumberChar
  if number.isEmpty then failure
  else do
    let unit := (Chars.trim (raw.dropWhile isNumberChar)).map Char.toLower
    exactQuotient (← kibibytesInWords (← given (unit? unit)) number) 1024

/-! ## Words and numbers -/

/-- Reckoning in words has no fault and gives a certain number, or finds that there is none. -/
def Gives (x : Reckoning UInt64) (r : Option Nat) : Prop :=
  ∃ w : Option UInt64, x.run = .ok w ∧ w.map UInt64.toNat = r

theorem gives_pure {w : UInt64} {n : Nat} (h : w.toNat = n) : Gives (pure w) (some n) :=
  ⟨some w, rfl, congrArg some h⟩

theorem gives_failure : Gives failure none := ⟨none, rfl, rfl⟩

theorem gives_bind {x : Reckoning UInt64} {f : UInt64 → Reckoning UInt64} {r : Option Nat}
    {g : Nat → Option Nat} (hx : Gives x r)
    (hf : ∀ w : UInt64, r = some w.toNat → Gives (f w) (g w.toNat)) :
    Gives (x >>= f) (r.bind g) := by
  obtain ⟨w, hrun, rfl⟩ := hx
  cases w with
  | none => exact ⟨none, by rw [OptionT.run_bind, hrun]; rfl, rfl⟩
  | some w =>
    obtain ⟨v, hv, hg⟩ := hf w rfl
    exact ⟨v, by rw [OptionT.run_bind, hrun]; exact hv, hg⟩

theorem gives_given {r : Option Nat} (h : ∀ n, r = some n → n < UInt64.size) :
    Gives (given r) r := by
  refine ⟨_, rfl, ?_⟩
  cases r with
  | none => rfl
  | some n => exact congrArg some (UInt64.toNat_ofNat_of_lt' (h n rfl))

theorem gives_checked {exact : Nat} {word : UInt64}
    (h : exact < UInt64.size → word.toNat = exact) : Gives (checked exact word) (word? exact) := by
  have hword : word? exact = if exact < UInt64.size then some exact else none :=
    if_congr Nat.lt_succ_iff.symm rfl rfl
  rw [checked, hword]
  split
  · next hlt => exact gives_pure (h hlt)
  · exact gives_failure

theorem gives_checkedAdd (a b : UInt64) : Gives (checkedAdd a b) (word? (a.toNat + b.toNat)) :=
  gives_checked fun h => by rw [UInt64.toNat_add]; exact Nat.mod_eq_of_lt h

theorem gives_checkedMul (a b : UInt64) : Gives (checkedMul a b) (word? (a.toNat * b.toNat)) :=
  gives_checked fun h => by rw [UInt64.toNat_mul]; exact Nat.mod_eq_of_lt h

theorem gives_power {n : Nat} (h : n ≤ 6) : Gives (power 10 n) (some (10 ^ n)) := by
  have hfits : (10 : UInt64).toNat ^ n < UInt64.size :=
    (Nat.pow_le_pow_right (by decide) h).trans_lt (by decide)
  rw [power, if_pos hfits]
  refine gives_pure ?_
  rw [← UInt64.toNat_toBitVec, UInt64.toBitVec_pow, BitVec.toNat_pow]
  exact Nat.mod_eq_of_lt hfits

theorem gives_exactQuotient (a : UInt64) {b : UInt64} (hb : b ≠ 0) :
    Gives (exactQuotient a b)
      (if a.toNat % b.toNat ≠ 0 then none else some (a.toNat / b.toNat)) := by
  have hrest : a % b = 0 ↔ a.toNat % b.toNat = 0 := by
    rw [← UInt64.toNat_mod]
    exact (UInt64.toNat_inj).symm
  rw [exactQuotient, if_neg hb]
  simp only [ne_eq, hrest]
  split
  · exact gives_failure
  · exact gives_pure (UInt64.toNat_div a b)

/-! ## Sizes -/

theorem gives_unsigned (s : List Char) :
    Gives (given (unsigned? 10 maxWord s)) (unsigned? 10 maxWord s) :=
  gives_given fun _ hn => Nat.lt_succ_of_le (unsigned?_eq_some_iff.1 hn).1

theorem gives_wholeInWords (s : List Char) : Gives (wholeInWords s) (wholePart? s) := by
  unfold wholeInWords wholePart?
  split
  · exact gives_pure rfl
  · exact gives_unsigned s

theorem gives_scaledInWords (factor scale : UInt64) (whole fraction : List Char) :
    Gives (scaledInWords factor scale whole fraction)
      (scaled? factor.toNat scale.toNat whole fraction) := by
  refine gives_bind (gives_wholeInWords whole) fun whole _ => ?_
  refine gives_bind (gives_unsigned fraction) fun fraction _ => ?_
  refine gives_bind (gives_checkedMul whole scale) fun product _ => ?_
  refine gives_bind (gives_checkedAdd product fraction) fun sum _ => ?_
  exact gives_checkedMul sum factor

theorem gives_kibibytesInWords (factor : UInt64) (number : List Char) :
    Gives (kibibytesInWords factor number) (kibibytes? factor.toNat number) := by
  cases hpoint : Chars.splitFirst? '.' number with
  | none =>
    rw [kibibytesInWords, kibibytes?, hpoint]
    exact gives_bind (gives_unsigned number) fun n _ => gives_checkedMul n factor
  | some parts =>
    obtain ⟨whole, fraction⟩ := parts
    rw [kibibytes?_eq hpoint, kibibytesInWords, hpoint]
    dsimp only
    split
    · exact gives_failure
    · next hlength =>
      have hsix : fraction.length ≤ 6 := Nat.le_of_not_lt (not_or.1 hlength).2
      refine gives_bind (g := fun scale => (scaled? factor.toNat scale whole fraction).bind
        fun scaled => if scaled % scale ≠ 0 then none else some (scaled / scale))
        (gives_power hsix) fun scale hscale => ?_
      have hne : scale ≠ 0 := by
        rintro rfl
        exact absurd (Option.some.inj hscale) (Nat.pow_pos (by decide)).ne'
      refine gives_bind (gives_scaledInWords factor scale whole fraction) fun scaled _ => ?_
      exact gives_exactQuotient scaled hne

theorem gives_mebibytesInWords (raw : String) :
    Gives (mebibytesInWords raw) ((mebibytes? raw).map UInt64.toNat) := by
  unfold mebibytesInWords mebibytes?
  dsimp only
  split
  · exact gives_failure
  · simp only [Option.bind_eq_bind, Option.map_bind]
    have hunit : ∀ u n, unit? u = some n → n < UInt64.size := by
      intro u n hn
      obtain ⟨-, rfl⟩ | ⟨c, hc, -⟩ := unit?_eq_some_iff.1 hn
      · decide
      · exact (by decide : ∀ u ∈ unitLetters, u.2 < UInt64.size) _ hc
    refine gives_bind (gives_given (hunit _)) fun factor _ => ?_
    rw [Function.comp_apply, Option.map_bind]
    refine gives_bind (gives_kibibytesInWords factor _) fun kib _ => ?_
    have hquotient : Gives (exactQuotient kib 1024)
        (if kib.toNat % 1024 ≠ 0 then none else some (kib.toNat / 1024)) :=
      gives_exactQuotient kib (by decide)
    have hword : (UInt64.ofNat (kib.toNat / 1024)).toNat = kib.toNat / 1024 :=
      UInt64.toNat_ofNat_of_lt' ((Nat.div_le_self _ _).trans_lt kib.toNat_lt_size)
    rw [← hword, ← Option.map_some, ← Option.map_none, ← apply_ite (Option.map _)] at hquotient
    exact hquotient

/-- Reckoning in words has no faults and gives the size that is read. -/
theorem run_mebibytesInWords (raw : String) :
    (mebibytesInWords raw).run = .ok (mebibytes? raw) := by
  obtain ⟨w, hrun, hw⟩ := gives_mebibytesInWords raw
  rw [hrun, Option.map_injective (fun _ _ => UInt64.toNat_inj.1) hw]

/-- A text is read as a size exactly if it has the form of one and is a number of mebibytes that can
be counted in 64 bits, and no step of the reckoning leaves them. -/
theorem mebibytes_exact (raw : String) :
    (∀ m : UInt64, mebibytes? raw = some m ↔ IsSize raw m.toNat) ∧
      (mebibytesInWords raw).run = .ok (mebibytes? raw) :=
  ⟨mebibytes?_iff_isSize raw, run_mebibytesInWords raw⟩

end GuestSpec.Size

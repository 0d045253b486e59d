/-!
# Searching numbers

The first number of a range at which a function has a value. The search stops there, so ranges may
be long.
-/

namespace GuestSpec

/-- The value of a function at the least number from `start` on, among `count` numbers, at which
it has one. -/
def firstFrom? {α : Type} (f : Nat → Option α) : (start count : Nat) → Option α
  | _, 0 => none
  | start, count + 1 =>
    match f start with
    | some a => some a
    | none => firstFrom? f (start + 1) count

theorem firstFrom?_eq_none_iff {α : Type} {f : Nat → Option α} {start count : Nat} :
    firstFrom? f start count = none ↔ ∀ i, start ≤ i → i < start + count → f i = none := by
  induction count generalizing start with
  | zero =>
    refine ⟨fun _ i hi hlt => ?_, fun _ => rfl⟩
    omega
  | succ count ih =>
    rw [firstFrom?]
    cases h : f start with
    | some a =>
      refine ⟨fun hn => (nomatch hn), fun hall => ?_⟩
      have := hall start (Nat.le_refl _) (by omega)
      rw [h] at this
      exact nomatch this
    | none =>
      simp only [ih]
      refine ⟨fun hall i hi hlt => ?_, fun hall i hi hlt => hall i (by omega) (by omega)⟩
      rcases Nat.eq_or_lt_of_le hi with rfl | hi
      · exact h
      · exact hall i hi (by omega)

theorem firstFrom?_eq_some {α : Type} {f : Nat → Option α} {start count : Nat} {a : α}
    (h : firstFrom? f start count = some a) :
    ∃ i, start ≤ i ∧ i < start + count ∧ f i = some a ∧ ∀ j, start ≤ j → j < i → f j = none := by
  induction count generalizing start with
  | zero => exact nomatch h
  | succ count ih =>
    rw [firstFrom?] at h
    cases hf : f start with
    | some b =>
      rw [hf] at h
      exact ⟨start, Nat.le_refl _, by omega, hf.trans h, fun j hj hlt => by omega⟩
    | none =>
      rw [hf] at h
      obtain ⟨i, hi, hlt, hfi, hmin⟩ := ih h
      refine ⟨i, by omega, by omega, hfi, fun j hj hji => ?_⟩
      rcases Nat.eq_or_lt_of_le hj with rfl | hj
      · exact hf
      · exact hmin j hj hji

end GuestSpec

import GuestSpec.Text.Basic
import Mathlib

/-!
# Texts that are put together again

A text that is cut at a separator is the text before it, the separator and the text behind it, and
there is no separator before the first one. A text that has a certain beginning is this beginning
and the rest.
-/

namespace GuestSpec.Text

namespace Chars

variable {sep : Char} {p s a b : List Char}

theorem splitFirst?_append (h : sep ∉ a) : splitFirst? sep (a ++ sep :: b) = some (a, b) := by
  induction a with
  | nil => exact if_pos rfl
  | cons c a ih =>
    obtain ⟨hc, ha⟩ := not_or.1 (mt List.mem_cons.2 h)
    rw [List.cons_append, splitFirst?, if_neg (Ne.symm hc), ih ha]
    rfl

theorem splitFirst?_eq_none_iff : splitFirst? sep s = none ↔ sep ∉ s := by
  induction s with
  | nil => exact iff_of_true rfl List.not_mem_nil
  | cons c s ih =>
    rw [splitFirst?]
    split
    · next hc => exact iff_of_false nofun (not_not_intro (hc ▸ List.mem_cons_self))
    · next hc => rw [Option.map_eq_none_iff, ih, List.mem_cons, not_or, and_iff_right (Ne.symm hc)]

theorem splitFirst?_eq_some_iff :
    splitFirst? sep s = some (a, b) ↔ s = a ++ sep :: b ∧ sep ∉ a := by
  refine ⟨fun h => ?_, fun h => h.1 ▸ splitFirst?_append h.2⟩
  have hmem : sep ∈ s := by
    by_contra hnone
    rw [splitFirst?_eq_none_iff.2 hnone] at h
    cases h
  obtain ⟨a', b', rfl, ha'⟩ := List.eq_append_cons_of_mem hmem
  rw [splitFirst?_append ha'] at h
  obtain ⟨rfl, rfl⟩ := Prod.mk.inj (Option.some.inj h)
  exact ⟨rfl, ha'⟩

theorem afterLeading?_eq_some_iff : afterLeading? p s = some b ↔ s = p ++ b := by
  induction p generalizing s with
  | nil => simp [afterLeading?]
  | cons c p ih =>
    cases s with
    | nil => simp [afterLeading?]
    | cons d s =>
      rw [afterLeading?]
      split
      · next hc => rw [ih, hc, List.cons_append, List.cons_inj_right]
      · next hc => exact iff_of_false nofun fun h => hc (List.cons.inj h).1.symm

theorem beforeTrailing?_eq_some_iff : beforeTrailing? p s = some a ↔ s = a ++ p := by
  rw [beforeTrailing?, Option.map_eq_some_iff]
  constructor
  · rintro ⟨r, hr, rfl⟩
    rw [← s.reverse_reverse, afterLeading?_eq_some_iff.1 hr, List.reverse_append,
      List.reverse_reverse]
  · rintro rfl
    refine ⟨a.reverse, afterLeading?_eq_some_iff.2 List.reverse_append, List.reverse_reverse a⟩

/-- A text is cut at the first occurrence of another, which is where its first character is. -/
theorem splitOnce?_append {c : Char} (h : c ∉ a) :
    splitOnce? (c :: p) (a ++ (c :: p ++ b)) = some (a, b) := by
  induction a with
  | nil =>
    rw [List.nil_append, List.cons_append, splitOnce?, ← List.cons_append,
      afterLeading?_eq_some_iff.2 rfl]
  | cons d a ih =>
    obtain ⟨hd, ha⟩ := not_or.1 (mt List.mem_cons.2 h)
    rw [List.cons_append, splitOnce?, afterLeading?, if_neg hd, ih ha]
    rfl

/-! ## Runs of characters -/

section Runs

variable {q : Char → Bool}

theorem takeWhile_append (ha : ∀ c ∈ a, q c = true) (hb : ∀ c ∈ b.head?, q c = false) :
    (a ++ b).takeWhile q = a := by
  rw [List.takeWhile_append_of_pos ha]
  cases b with
  | nil => rw [List.takeWhile_nil, List.append_nil]
  | cons c b => rw [List.takeWhile_cons_of_neg (by simp [hb c rfl]), List.append_nil]

theorem dropWhile_append (ha : ∀ c ∈ a, q c = true) (hb : ∀ c ∈ b.head?, q c = false) :
    (a ++ b).dropWhile q = b := by
  rw [List.dropWhile_append_of_pos ha]
  cases b with
  | nil => rfl
  | cons c b => exact List.dropWhile_cons_of_neg (by simp [hb c rfl])

theorem splitWhere_ne_nil (q : Char → Bool) (s : List Char) : splitWhere q s ≠ [] := by
  cases s with
  | nil => exact List.cons_ne_nil _ _
  | cons c s =>
    rw [splitWhere]
    split
    · exact List.cons_ne_nil _ _
    · split
      · exact List.cons_ne_nil _ _
      · exact List.cons_ne_nil _ _

theorem splitWhere_cons_of_pos {c : Char} (hc : q c = true) (s : List Char) :
    splitWhere q (c :: s) = [] :: splitWhere q s := by
  rw [splitWhere]
  split
  · next h => exact absurd h (splitWhere_ne_nil q s)
  · next w ws h => rw [if_pos hc, h]

/-- A text without cuts in front is in front of the first piece. -/
theorem splitWhere_append (ha : ∀ c ∈ a, q c = false) {w : List Char} {ws : List (List Char)}
    (hb : splitWhere q b = w :: ws) : splitWhere q (a ++ b) = (a ++ w) :: ws := by
  induction a with
  | nil => exact hb
  | cons c a ih =>
    obtain ⟨hc, ha⟩ := List.forall_mem_cons.1 ha
    rw [List.cons_append, splitWhere, ih ha]
    exact if_neg (by simp [hc])

theorem splitWhere_append_cons (ha : ∀ c ∈ a, q c = false) {c : Char} (hc : q c = true) :
    splitWhere q (a ++ c :: b) = a :: splitWhere q b := by
  rw [splitWhere_append ha (splitWhere_cons_of_pos hc b), List.append_nil]

/-- Pieces that are joined are cut again where they were joined. -/
theorem splitWhere_intercalate {pieces : List (List Char)} (hne : pieces ≠ [])
    (h : ∀ a ∈ pieces, sep ∉ a) :
    splitWhere (· == sep) (List.intercalate [sep] pieces) = pieces := by
  induction pieces with
  | nil => exact absurd rfl hne
  | cons a pieces ih =>
    obtain ⟨ha, hpieces⟩ := List.forall_mem_cons.1 h
    have ha : ∀ c ∈ a, (c == sep) = false := fun c hc => by
      simpa using fun he : c = sep => ha (he ▸ hc)
    cases pieces with
    | nil =>
      rw [List.intercalate_singleton, ← List.append_nil a, splitWhere_append ha rfl]
    | cons b pieces =>
      rw [List.intercalate_cons_cons, List.append_assoc, List.singleton_append,
        splitWhere_append_cons ha (beq_self_eq_true sep), ih (List.cons_ne_nil _ _) hpieces]

end Runs

end Chars

variable {sep : Char} {p s a b : String}

theorem splitFirst?_eq_none_iff : splitFirst? sep s = none ↔ sep ∉ s.toList := by
  rw [splitFirst?, Option.map_eq_none_iff, Chars.splitFirst?_eq_none_iff]

theorem splitFirst?_eq_some_iff :
    splitFirst? sep s = some (a, b) ↔ s = a ++ String.singleton sep ++ b ∧ sep ∉ a.toList := by
  have hcut : splitFirst? sep s = some (a, b) ↔
      Chars.splitFirst? sep s.toList = some (a.toList, b.toList) := by
    unfold splitFirst?
    cases Chars.splitFirst? sep s.toList with
    | none => simp
    | some r => simp [Prod.ext_iff, String.ext_iff]
  rw [hcut, Chars.splitFirst?_eq_some_iff, ← String.toList_inj]
  simp

theorem splitFirst?_append (h : sep ∉ a.toList) :
    splitFirst? sep (a ++ String.singleton sep ++ b) = some (a, b) :=
  splitFirst?_eq_some_iff.2 ⟨rfl, h⟩

theorem afterLeading?_eq_some_iff : afterLeading? p s = some b ↔ s = p ++ b := by
  have hrest : afterLeading? p s = some b ↔
      Chars.afterLeading? p.toList s.toList = some b.toList := by
    unfold afterLeading?
    cases Chars.afterLeading? p.toList s.toList with
    | none => simp
    | some r => simp [String.ext_iff]
  rw [hrest, Chars.afterLeading?_eq_some_iff, ← String.toList_inj, String.toList_append]

theorem beforeTrailing?_eq_some_iff : beforeTrailing? p s = some a ↔ s = a ++ p := by
  have hrest : beforeTrailing? p s = some a ↔
      Chars.beforeTrailing? p.toList s.toList = some a.toList := by
    unfold beforeTrailing?
    cases Chars.beforeTrailing? p.toList s.toList with
    | none => simp
    | some r => simp [String.ext_iff]
  rw [hrest, Chars.beforeTrailing?_eq_some_iff, ← String.toList_inj, String.toList_append]

theorem splitOnce?_append {c : Char} (hp : p.toList.head? = some c) (h : c ∉ a.toList) :
    splitOnce? p (a ++ (p ++ b)) = some (a, b) := by
  obtain ⟨rest, hp⟩ := List.head?_eq_some_iff.1 hp
  rw [splitOnce?, String.toList_append, String.toList_append, hp, Chars.splitOnce?_append h]
  simp

end GuestSpec.Text

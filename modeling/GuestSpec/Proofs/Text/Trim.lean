import GuestSpec.Text.Basic
import Mathlib

/-!
# Texts without blanks at their ends

Trimming gives a text without blanks at its ends and leaves such a text alone.
-/

namespace GuestSpec.Text.Chars

theorem not_isBlank {c : Char} (hlow : 33 ≤ c.toNat) (hhigh : c.toNat ≤ 126) :
    isBlank c = false := by
  simp only [isBlank, Bool.or_eq_false_iff, Bool.and_eq_false_iff, decide_eq_false_iff_not,
    beq_eq_false_iff_ne]
  omega

/-- No blank stands at the start or at the end of a text. -/
structure IsTrimmed (s : List Char) : Prop where
  head : ∀ c ∈ s.head?, isBlank c = false
  last : ∀ c ∈ s.getLast?, isBlank c = false

variable {s w : List Char}

theorem isTrimmed_of_forall (h : ∀ c ∈ s, isBlank c = false) : IsTrimmed s :=
  ⟨fun c hc => h c (List.mem_of_head? hc), fun c hc => h c (List.mem_of_getLast? hc)⟩

theorem isTrimmed_append {a b : List Char} (ha : a ≠ []) (hb : b ≠ [])
    (hhead : ∀ c ∈ a.head?, isBlank c = false) (hlast : ∀ c ∈ b.getLast?, isBlank c = false) :
    IsTrimmed (a ++ b) where
  head := by rwa [List.head?_append_of_ne_nil _ ha]
  last := by rwa [List.getLast?_append_of_ne_nil _ hb]

theorem trimLeft_eq_self (h : ∀ c ∈ s.head?, isBlank c = false) : trimLeft s = s := by
  cases s with
  | nil => rfl
  | cons c s => exact List.dropWhile_cons_of_neg (by simpa using h c rfl)

theorem trimRight_eq_self (h : ∀ c ∈ s.getLast?, isBlank c = false) : trimRight s = s := by
  rw [trimRight, ← trimLeft, trimLeft_eq_self, List.reverse_reverse]
  rwa [List.head?_reverse]

theorem IsTrimmed.trim_eq (h : IsTrimmed s) : trim s = s := by
  rw [trim, trimLeft_eq_self h.head, trimRight_eq_self h.last]

theorem trim_append (hw : ∀ c ∈ w, isBlank c = true) (hs : IsTrimmed s) : trim (w ++ s) = s := by
  rw [trim, trimLeft, List.dropWhile_append_of_pos hw]
  exact hs.trim_eq

theorem append_trim (hw : ∀ c ∈ w, isBlank c = true) (hs : IsTrimmed s) : trim (s ++ w) = s := by
  have hright : trimRight (s ++ w) = s := by
    rw [trimRight, List.reverse_append,
      List.dropWhile_append_of_pos fun c hc => hw c (List.mem_reverse.1 hc)]
    exact trimRight_eq_self hs.last
  cases s with
  | nil =>
    have hleft : trimLeft ([] ++ w) = [] := List.dropWhile_eq_nil_iff.2 hw
    rw [trim, hleft]
    rfl
  | cons c s => rw [trim, trimLeft_eq_self (by simpa using hs.head), hright]

theorem head?_dropWhile (p : Char → Bool) (s : List Char) :
    ∀ c ∈ (s.dropWhile p).head?, p c = false := by
  intro c hc
  have hhead := List.head?_dropWhile_not p s
  rw [Option.mem_def.1 hc] at hhead
  exact hhead

theorem getLast?_of_suffix {t : List Char} (hst : s <:+ t)
    (ht : ∀ c ∈ t.getLast?, isBlank c = false) : ∀ c ∈ s.getLast?, isBlank c = false := by
  obtain ⟨front, rfl⟩ := hst
  intro c hc
  refine ht c ?_
  rw [List.getLast?_append, Option.mem_def.1 hc]
  rfl

theorem isTrimmed_trim (s : List Char) : IsTrimmed (trim s) where
  head := by
    intro c hc
    -- what is left at the end is a beginning
    have hprefix : trim s <+: trimLeft s := List.rdropWhile_prefix isBlank _
    obtain ⟨rest, hrest⟩ := hprefix
    refine head?_dropWhile isBlank s c ?_
    rw [← trimLeft, ← hrest, List.head?_append, Option.mem_def.1 hc]
    rfl
  last := by
    rw [trim, trimRight, List.getLast?_reverse]
    exact head?_dropWhile isBlank _

theorem trim_eq_nil_iff : trim s = [] ↔ ∀ c ∈ s, isBlank c = true := by
  constructor
  · intro h
    have hright : ∀ c ∈ trimLeft s, isBlank c = true := by
      rw [trim, trimRight, List.reverse_eq_nil_iff, List.dropWhile_eq_nil_iff] at h
      exact fun c hc => h c (List.mem_reverse.2 hc)
    have hleft : trimLeft s = [] := by
      cases hcons : trimLeft s with
      | nil => rfl
      | cons c rest =>
        have hblank := hright c (hcons ▸ List.mem_cons_self)
        rw [head?_dropWhile isBlank s c (by rw [← trimLeft, hcons]; rfl)] at hblank
        cases hblank
    exact List.dropWhile_eq_nil_iff.1 hleft
  · intro h
    have hleft : trimLeft s = [] := List.dropWhile_eq_nil_iff.2 h
    rw [trim, hleft]
    rfl

theorem exists_eq_append_trim (h : ∀ c ∈ s.getLast?, isBlank c = false) :
    ∃ w, (∀ c ∈ w, isBlank c = true) ∧ s = w ++ trim s := by
  refine ⟨s.takeWhile isBlank, fun c hc => List.mem_takeWhile_imp hc, ?_⟩
  have hrest : trim s = trimLeft s :=
    trimRight_eq_self (getLast?_of_suffix (List.dropWhile_suffix isBlank) h)
  rw [hrest, trimLeft, List.takeWhile_append_dropWhile]

end GuestSpec.Text.Chars

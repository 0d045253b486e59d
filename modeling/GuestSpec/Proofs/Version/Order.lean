import GuestSpec.Version.Interval
import Mathlib.Data.List.Basic

/-!
# The order of versions

The order of versions is total and transitive, through the identifiers of pre-releases and builds of
any number and length. Identifiers are compared by ranks, lists of identifiers lexicographically,
and versions by one part after the other. An interval without an upper end holds, with a version,
all later ones.
-/

namespace GuestSpec

open Std

namespace Version

/-! ## Identifiers -/

def isWordy (s : String) : Bool := !isNumeric s

def rankValue (s : String) : Nat := if isNumeric s then numericValue s else 0

def rankLength (s : String) : Nat := if isNumeric s then s.length else 0

def rankText (s : String) : String := if isNumeric s then "" else s

theorem compareIdentifiers_eq :
    compareIdentifiers = compareLex (compareOn isWordy) (compareLex (compareOn rankValue)
      (compareLex (compareOn rankLength) (compareOn rankText))) := by
  funext a b
  unfold compareIdentifiers compareLex compareOn isWordy rankValue rankLength rankText
  cases isNumeric a with
  | true =>
    cases isNumeric b with
    | true => simp
    | false => rfl
  | false =>
    cases isNumeric b with
    | true => rfl
    | false => simp

instance : TransCmp compareIdentifiers := by
  rw [compareIdentifiers_eq]
  infer_instance

/-! ## Lists of identifiers -/

theorem compareLists_eq : compareLists = List.compareLex compareIdentifiers := by
  funext as bs
  induction as generalizing bs with
  | nil => cases bs <;> rfl
  | cons a as ih =>
    cases bs with
    | nil => rfl
    | cons b bs =>
      rw [compareLists, List.compareLex, ih]
      cases compareIdentifiers a b <;> rfl

instance : TransCmp compareLists := by
  rw [compareLists_eq]
  infer_instance

theorem comparePre_eq : comparePre = compareLex (compareOn List.isEmpty) compareLists := by
  funext as bs
  cases as <;> cases bs <;> rfl

instance : TransCmp comparePre := by
  rw [comparePre_eq]
  infer_instance

/-! ## Versions -/

theorem compare_eq :
    (compare : Version → Version → Ordering) =
      compareLex (compareOn major) (compareLex (compareOn minor) (compareLex (compareOn patch)
        (compareLex (fun v w => comparePre v.pre w.pre) fun v w =>
          compareLists v.build w.build))) := rfl

/-- The order of the images under a function. -/
theorem transCmp_on {α β : Type} (cmp : β → β → Ordering) [TransCmp cmp] (f : α → β) :
    TransCmp fun a b => cmp (f a) (f b) where
  eq_swap {a b} := OrientedCmp.eq_swap (a := f a) (b := f b)
  isLE_trans {a b c} := TransCmp.isLE_trans (a := f a) (b := f b) (c := f c)

instance : TransOrd Version := by
  have := transCmp_on comparePre pre
  have := transCmp_on compareLists build
  rw [TransOrd, compare_eq]
  infer_instance

/-! ## Intervals -/

namespace Interval

variable {i : Interval} {v w : Version}

theorem isAbove_mono (hvw : (compare v w).isLE) {b : Option Bound} (h : isAbove v b = true) :
    isAbove w b = true := by
  have hwv : (compare w v).isGE := OrientedCmp.isGE_iff_isLE.2 hvw
  cases b with
  | none => rfl
  | some b =>
    unfold isAbove at h ⊢
    dsimp only at h ⊢
    split
    · next hinclusive =>
      rw [if_pos hinclusive] at h
      exact TransCmp.isGE_trans hwv h
    · next hinclusive =>
      rw [if_neg hinclusive, Ordering.isGT_iff_eq_gt] at h
      rw [Ordering.isGT_iff_eq_gt]
      exact TransCmp.gt_of_isGE_of_gt hwv h

/-- What lies in an interval without an upper end is followed by nothing but what lies in it. -/
theorem contains_mono (hi : i.upper = none) (hvw : (compare v w).isLE)
    (h : i.contains v = true) : i.contains w = true := by
  unfold contains at h ⊢
  rw [Bool.and_eq_true] at h ⊢
  refine ⟨isAbove_mono hvw h.1, ?_⟩
  rw [hi]
  rfl

end Interval

end Version

end GuestSpec

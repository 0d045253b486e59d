import GuestSpec.Proofs.Bus.Outcome
import Mathlib.Data.List.Nodup
import Mathlib.Data.List.Perm.Subperm

/-!
# Indices in the boot order

Devices ask for a certain index or for the lowest one that is free. `bootOrder` gives out indices to
a list of requests, the explicit ones first; `BootOrdered` says what a good assignment is. There are
only 2^32 indices, which is the one way in which devices that accept any index can be left without
one of their own.
-/

namespace GuestSpec

open Alloc BusAllocator

/-! ## The lowest free index -/

/-- The lowest index that is not used, or 0xFFFFFFFF when all lower ones are used, where a checked
search would stop with an overflow. -/
def lowestIndex (used : List UInt32) : UInt32 :=
  (firstFrom? (fun i => if used.contains (UInt32.ofNat i) then none else some (UInt32.ofNat i)) 0
    (used.length + 1)).getD 0xFFFFFFFF

theorem exists_not_mem_used {used : List UInt32} (h : used.length < UInt32.size) :
    ∃ i ≤ used.length, UInt32.ofNat i ∉ used := by
  by_contra hall
  push Not at hall
  have hinj : ∀ i < used.length + 1, ∀ j < used.length + 1,
      UInt32.ofNat i = UInt32.ofNat j → i = j := by
    intro i hi j hj hij
    have hnat := congrArg UInt32.toNat hij
    rwa [UInt32.toNat_ofNat_of_lt' (by omega), UInt32.toNat_ofNat_of_lt' (by omega)] at hnat
  have hnodup : ((List.range (used.length + 1)).map UInt32.ofNat).Nodup := by
    refine List.Nodup.map_on (fun i hi j hj => ?_) List.nodup_range
    exact hinj i (List.mem_range.1 hi) j (List.mem_range.1 hj)
  have hsub : (List.range (used.length + 1)).map UInt32.ofNat ⊆ used := by
    intro index hindex
    obtain ⟨i, hi, rfl⟩ := List.mem_map.1 hindex
    exact hall i (by simpa [Nat.lt_succ_iff] using hi)
  have hlength := (hnodup.subperm hsub).length_le
  rw [List.length_map, List.length_range] at hlength
  omega

theorem lowestIndex_spec {used : List UInt32} (h : used.length < UInt32.size) :
    lowestIndex used ∉ used ∧ ∀ j < lowestIndex used, j ∈ used := by
  rw [lowestIndex]
  cases hfirst : firstFrom? (fun i => if used.contains (UInt32.ofNat i) then none
      else some (UInt32.ofNat i)) 0 (used.length + 1) with
  | none =>
    obtain ⟨i, hi, hfree⟩ := exists_not_mem_used h
    have hnone := firstFrom?_eq_none_iff.1 hfirst i (Nat.zero_le _) (by omega)
    simp [hfree] at hnone
  | some index =>
    obtain ⟨i, -, hi, hindex, hbelow⟩ := firstFrom?_eq_some hfirst
    have hfree : UInt32.ofNat i ∉ used := by
      intro hmem
      simp [hmem] at hindex
    obtain rfl : UInt32.ofNat i = index := by simpa [hfree] using hindex
    refine ⟨hfree, fun j hj => ?_⟩
    have hlt : j.toNat < i := by
      rwa [Option.getD_some, UInt32.lt_iff_toNat_lt, UInt32.toNat_ofNat_of_lt' (by omega)] at hj
    have hused := hbelow j.toNat (Nat.zero_le _) hlt
    simpa using hused

def lowestIndices (used : List UInt32) : Nat → List UInt32
  | 0 => []
  | n + 1 => lowestIndex used :: lowestIndices (lowestIndex used :: used) n

/-- Indices in increasing order, none of them used, without a gap that is not used. -/
structure Smallest (used indices : List UInt32) : Prop where
  increasing : indices.Pairwise (· < ·)
  unused : ∀ i ∈ indices, i ∉ used
  smallest : ∀ i ∈ indices, ∀ j < i, j ∈ used ∨ j ∈ indices

theorem length_lowestIndices (used : List UInt32) (n : Nat) :
    (lowestIndices used n).length = n := by
  induction n generalizing used with
  | zero => rfl
  | succ n ih => simp [lowestIndices, ih]

theorem take_lowestIndices (used : List UInt32) (n k : Nat) :
    (lowestIndices used n).take k = lowestIndices used (min k n) := by
  induction n generalizing used k with
  | zero => simp [lowestIndices]
  | succ n ih =>
    cases k with
    | zero => simp [lowestIndices]
    | succ k => simp [lowestIndices, ih, Nat.succ_min_succ]

theorem smallest_lowestIndices {used : List UInt32} {n : Nat}
    (h : used.length + n ≤ UInt32.size) : Smallest used (lowestIndices used n) := by
  induction n generalizing used with
  | zero => exact ⟨.nil, by simp [lowestIndices], by simp [lowestIndices]⟩
  | succ n ih =>
    obtain ⟨hfree, hbelow⟩ := lowestIndex_spec (by omega : used.length < UInt32.size)
    have hroom : (lowestIndex used :: used).length + n ≤ UInt32.size := by
      rw [List.length_cons]
      omega
    have hrest := ih hroom
    rw [lowestIndices]
    refine ⟨List.pairwise_cons.2 ⟨fun i hi => ?_, hrest.increasing⟩, fun i hi => ?_,
      fun i hi j hj => ?_⟩
    · -- all below the lowest index are used
      have hnot := hrest.unused i hi
      rw [List.mem_cons, not_or] at hnot
      have hle := UInt32.not_lt.1 fun hlt => hnot.2 (hbelow i hlt)
      exact UInt32.lt_of_le_of_ne hle (Ne.symm hnot.1)
    · obtain rfl | hi := List.mem_cons.1 hi
      · exact hfree
      · exact fun hmem => hrest.unused i hi (List.mem_cons_of_mem _ hmem)
    · obtain rfl | hi := List.mem_cons.1 hi
      · exact .inl (hbelow j hj)
      · have hcases := hrest.smallest i hi j hj
        rw [List.mem_cons] at hcases ⊢
        tauto

theorem Smallest.nil (used : List UInt32) : Smallest used [] :=
  ⟨.nil, by simp, by simp⟩

/-! ## Requests -/

def BootRequest.explicit? : BootRequest → Option UInt32
  | .explicit index => some index
  | _ => .none

def explicitIndices (rs : List BootRequest) : List UInt32 := rs.filterMap BootRequest.explicit?

def nextIndices (used : List UInt32) : List BootRequest → List (Option UInt32)
  | [] => []
  | .next :: rs => some (lowestIndex used) :: nextIndices (lowestIndex used :: used) rs
  | _ :: rs => none :: nextIndices used rs

def bootOrderFrom (used : List UInt32) (rs : List BootRequest) : List (Option UInt32) :=
  (rs.map BootRequest.explicit?).zipWith Option.or (nextIndices used rs)

/-- The indices of requests. Those that are named are used before any other is given out. -/
def bootOrder (rs : List BootRequest) : List (Option UInt32) :=
  bootOrderFrom (explicitIndices rs) rs

def givenToNext (rs : List BootRequest) (indices : List (Option UInt32)) : List UInt32 :=
  (rs.zip indices).filterMap fun (r, i) => if r = .next then i else none

/-- A good assignment of indices to requests. -/
structure BootOrdered (rs : List BootRequest) (indices : List (Option UInt32)) : Prop where
  length : indices.length = rs.length
  /-- A request for a certain index gets this index. -/
  explicit : ∀ (k : Nat) i, rs[k]? = some (.explicit i) → indices[k]? = some (some i)
  /-- No request, no index. -/
  absent : ∀ k : Nat, rs[k]? = some .none → indices[k]? = some none
  /-- A request for any index gets one. -/
  next : ∀ k : Nat, rs[k]? = some .next → ∃ i, indices[k]? = some (some i)
  /-- Requests for any index get the smallest ones that no request names, in their order and as long
  as there are any. -/
  smallest : Smallest (explicitIndices rs)
    ((givenToNext rs indices).take (UInt32.size - (explicitIndices rs).length))
  /-- All indices are different, if that is possible at all. -/
  distinct : (explicitIndices rs).Nodup →
    ((indices.filterMap id).Nodup ↔ (indices.filterMap id).length ≤ UInt32.size)

section Order

variable {used : List UInt32} {rs : List BootRequest}

theorem length_nextIndices (used : List UInt32) (rs : List BootRequest) :
    (nextIndices used rs).length = rs.length := by
  induction rs generalizing used with
  | nil => rfl
  | cons r rs ih => cases r <;> simp [nextIndices, ih]

theorem explicitIndices_cons (r : BootRequest) (rs : List BootRequest) :
    explicitIndices (r :: rs) = r.explicit?.toList ++ explicitIndices rs := by
  cases r <;> rfl

theorem givenToNext_cons (r : BootRequest) (rs : List BootRequest) (i : Option UInt32)
    (indices : List (Option UInt32)) :
    givenToNext (r :: rs) (i :: indices) =
      (if r = .next then i else none).toList ++ givenToNext rs indices := by
  cases h : (if r = .next then i else none) <;> simp [givenToNext, h]

theorem bootOrderFrom_cons (used : List UInt32) (r : BootRequest) (rs : List BootRequest) :
    bootOrderFrom used (r :: rs) =
      match r with
      | .next => some (lowestIndex used) :: bootOrderFrom (lowestIndex used :: used) rs
      | .explicit i => some i :: bootOrderFrom used rs
      | .none => none :: bootOrderFrom used rs := by
  cases r <;> rfl

theorem getElem?_bootOrderFrom (used : List UInt32) (rs : List BootRequest) (k : Nat) :
    (∀ i, rs[k]? = some (.explicit i) → (bootOrderFrom used rs)[k]? = some (some i)) ∧
      (rs[k]? = some .none → (bootOrderFrom used rs)[k]? = some none) ∧
      (rs[k]? = some .next → ∃ i, (bootOrderFrom used rs)[k]? = some (some i)) := by
  induction rs generalizing used k with
  | nil => simp
  | cons r rs ih =>
    rw [bootOrderFrom_cons]
    cases k with
    | zero => cases r <;> simp
    | succ k =>
      cases r with
      | next => simpa using ih (lowestIndex used :: used) k
      | explicit i => simpa using ih used k
      | none => simpa using ih used k

theorem givenToNext_bootOrderFrom (used : List UInt32) (rs : List BootRequest) :
    givenToNext rs (bootOrderFrom used rs) = lowestIndices used (rs.count .next) := by
  induction rs generalizing used with
  | nil => rfl
  | cons r rs ih =>
    rw [bootOrderFrom_cons]
    cases r with
    | next => simp [givenToNext_cons, lowestIndices, ih]
    | explicit i => simp [givenToNext_cons, ih]
    | none => simp [givenToNext_cons, ih]

/-- The indices that are given out are those that are named, and the lowest ones. -/
theorem filterMap_bootOrderFrom (used : List UInt32) (rs : List BootRequest) :
    ((bootOrderFrom used rs).filterMap id).Perm
      (explicitIndices rs ++ lowestIndices used (rs.count .next)) := by
  induction rs generalizing used with
  | nil => exact .nil
  | cons r rs ih =>
    rw [bootOrderFrom_cons]
    cases r with
    | next =>
      have hrest := ((ih (lowestIndex used :: used)).cons (lowestIndex used)).trans
        List.perm_middle.symm
      simpa [explicitIndices_cons, BootRequest.explicit?, lowestIndices] using hrest
    | explicit i => simpa [explicitIndices_cons, BootRequest.explicit?] using (ih used).cons i
    | none => simpa [explicitIndices_cons, BootRequest.explicit?] using ih used

theorem lowestIndex_perm {used used' : List UInt32} (h : used.Perm used') :
    lowestIndex used = lowestIndex used' := by
  have hcontains : ∀ i, used.contains i = used'.contains i := by
    intro i
    rw [List.contains_eq_mem, List.contains_eq_mem, decide_eq_decide]
    exact h.mem_iff
  rw [lowestIndex, lowestIndex, h.length_eq]
  simp only [hcontains]

theorem nextIndices_perm {used used' : List UInt32} (h : used.Perm used') (rs : List BootRequest) :
    nextIndices used rs = nextIndices used' rs := by
  induction rs generalizing used used' with
  | nil => rfl
  | cons r rs ih =>
    cases r with
    | next =>
      rw [nextIndices, nextIndices, lowestIndex_perm h, ih (h.cons _)]
    | none | explicit => exact congrArg _ (ih h)

theorem length_le_of_nodup {indices : List UInt32} (h : indices.Nodup) :
    indices.length ≤ UInt32.size := by
  have hnodup : (indices.map UInt32.toNat).Nodup := h.map fun _ _ => UInt32.toNat_inj.1
  have hsub : indices.map UInt32.toNat ⊆ List.range UInt32.size := by
    intro n hn
    obtain ⟨i, -, rfl⟩ := List.mem_map.1 hn
    exact List.mem_range.2 i.toNat_lt
  have hlength := (hnodup.subperm hsub).length_le
  rwa [List.length_map, List.length_range] at hlength

theorem bootOrdered_bootOrder (rs : List BootRequest) : BootOrdered rs (bootOrder rs) where
  length := by simp [bootOrder, bootOrderFrom, length_nextIndices]
  explicit k := (getElem?_bootOrderFrom _ rs k).1
  absent k := (getElem?_bootOrderFrom _ rs k).2.1
  next k := (getElem?_bootOrderFrom _ rs k).2.2
  smallest := by
    rw [bootOrder, givenToNext_bootOrderFrom, take_lowestIndices]
    by_cases hroom : (explicitIndices rs).length ≤ UInt32.size
    · exact smallest_lowestIndices (by omega)
    · rw [Nat.sub_eq_zero_of_le (by omega), Nat.zero_min]
      exact .nil _
  distinct hexplicit := by
    refine ⟨length_le_of_nodup, fun hlength => ?_⟩
    have hperm := filterMap_bootOrderFrom (explicitIndices rs) rs
    rw [bootOrder] at hlength ⊢
    rw [hperm.length_eq, List.length_append, length_lowestIndices] at hlength
    have hsmallest := smallest_lowestIndices hlength
    refine hperm.nodup_iff.2 (List.nodup_append.2 ⟨hexplicit, ?_, fun i hi j hj => ?_⟩)
    · exact hsmallest.increasing.imp UInt32.ne_of_lt
    · exact ne_of_mem_of_not_mem hi (hsmallest.unused j hj)

end Order

/-! ## Claims -/

def BusAllocator.usedIndices (a : BusAllocator) : List UInt32 := a.bootIndices.map Prod.fst

def CompileError.IsIndexInUse (e : CompileError) : Prop :=
  ∃ owner index holder, e = .collision (.bootIndexInUse owner index holder)

variable (owner : String) (a : BusAllocator)

theorem outcome_claimBootIndex_next :
    outcome (claimBootIndex owner .next) a =
      (.ok (some (lowestIndex a.usedIndices)),
        { a with bootIndices := (lowestIndex a.usedIndices, owner) :: a.bootIndices }) := by
  have hfree : ∀ i : Nat, (!a.bootIndices.any fun e => e.1 == UInt32.ofNat i) =
      !a.usedIndices.contains (UInt32.ofNat i) := by
    intro i
    rw [usedIndices, List.contains_eq_any_beq, List.any_map]
    simp only [Function.comp_def, BEq.comm]
  have hsearch : firstFrom? (fun i => if !a.bootIndices.any (fun e => e.1 == UInt32.ofNat i)
      then some (UInt32.ofNat i) else none) 0 (a.bootIndices.length + 1) =
      firstFrom? (fun i => if a.usedIndices.contains (UInt32.ofNat i) then none
        else some (UInt32.ofNat i)) 0 (a.usedIndices.length + 1) := by
    rw [usedIndices, List.length_map]
    congr 1
    funext i
    rw [hfree, BusAllocator.usedIndices]
    cases (a.bootIndices.map Prod.fst).contains (UInt32.ofNat i) <;> rfl
  rw [claimBootIndex, outcome_get_bind, lowestIndex, ← hsearch]
  rfl

theorem ensures_claimBootIndex_next :
    Ensures (claimBootIndex owner .next) a
      (fun i b => i = some (lowestIndex a.usedIndices) ∧
        b.usedIndices = lowestIndex a.usedIndices :: a.usedIndices)
      (fun _ _ => False) := by
  rw [Ensures, outcome_claimBootIndex_next]
  exact ⟨rfl, rfl⟩

theorem ensures_claimBootIndex_explicit (index : UInt32) :
    Ensures (claimBootIndex owner (.explicit index)) a
      (fun i b => i = some index ∧ index ∉ a.usedIndices ∧
        b.usedIndices = index :: a.usedIndices)
      (fun e _ => index ∈ a.usedIndices ∧ e.IsIndexInUse) := by
  apply ensures_get_bind
  cases hlookup : a.bootIndices.lookup index with
  | some holder =>
    obtain ⟨before, after, hsplit, -⟩ := List.lookup_eq_some_iff.1 hlookup
    have hmem : index ∈ a.usedIndices := by simp [usedIndices, hsplit]
    simp only [hlookup]
    exact ensures_throw ⟨hmem, owner, index, holder, rfl⟩
  | none =>
    have hfree : index ∉ a.usedIndices := by
      intro hmem
      obtain ⟨e, he, rfl⟩ := List.mem_map.1 hmem
      simpa using List.lookup_eq_none_iff.1 hlookup e he
    simp only [hlookup]
    exact ensures_modify_bind (ensures_pure ⟨rfl, hfree, rfl⟩)

end GuestSpec

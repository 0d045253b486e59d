import GuestSpec.Text.Map
import Mathlib

/-!
# Lists of entries

Lists of keys and values, in which a value is looked up by its key. Where keys are apart the order
of the entries makes no difference to this, and a list in the order of its keys is known by what is
found in it.
-/

namespace GuestSpec

section Lookup

variable {κ ν : Type} [DecidableEq κ] {l : List (κ × ν)} {k : κ} {v : ν}

theorem lookup_cons_eq_ite (e : κ × ν) (l : List (κ × ν)) (k : κ) :
    (e :: l).lookup k = if k = e.1 then some e.2 else l.lookup k := by
  rw [List.lookup_cons]
  by_cases hk : k = e.1
  · rw [beq_iff_eq.2 hk, if_pos hk]
  · rw [beq_eq_false_iff_ne.2 hk, if_neg hk]

theorem lookup_eq_none_iff_notMem : l.lookup k = none ↔ k ∉ l.map Prod.fst := by
  rw [List.lookup_eq_none_iff, List.mem_map]
  simp only [bne_iff_ne]
  constructor
  · rintro h ⟨e, he, rfl⟩
    exact h e he rfl
  · rintro h e he rfl
    exact h ⟨e, he, rfl⟩

/-- Where keys are apart, an entry is found by its key. -/
theorem lookup_eq_some_iff_mem (h : (l.map Prod.fst).Nodup) :
    l.lookup k = some v ↔ (k, v) ∈ l := by
  rw [List.lookup_eq_some_iff]
  constructor
  · rintro ⟨front, back, rfl, -⟩
    exact List.mem_append_right _ List.mem_cons_self
  · intro hmem
    obtain ⟨front, back, rfl⟩ := List.append_of_mem hmem
    refine ⟨front, back, rfl, fun e he => bne_iff_ne.2 ?_⟩
    rintro rfl
    rw [List.map_append, List.map_cons] at h
    exact (List.nodup_append.1 h).2.2 _ (List.mem_map_of_mem he) _ List.mem_cons_self rfl

theorem lookup_reverse (h : (l.map Prod.fst).Nodup) : l.reverse.lookup k = l.lookup k := by
  have hreverse : (l.reverse.map Prod.fst).Nodup := by
    rw [List.map_reverse]
    exact List.nodup_reverse.2 h
  ext v
  rw [lookup_eq_some_iff_mem hreverse, lookup_eq_some_iff_mem h, List.mem_reverse]

end Lookup

theorem eraseDups_eq_self {α : Type} [DecidableEq α] {l : List α} (h : l.Nodup) :
    l.eraseDups = l := by
  induction l with
  | nil => rfl
  | cons a l ih =>
    obtain ⟨ha, hl⟩ := List.nodup_cons.1 h
    have hfilter : l.filter (fun b => !b == a) = l := by
      rw [List.filter_eq_self]
      intro b hb
      simpa using ne_of_mem_of_not_mem hb ha
    rw [List.eraseDups_cons, hfilter, ih hl]

/-! ## Entries in the order of their keys -/

section Sorted

variable {ν : Type} {key k : String} {value : ν} {l l' : List (String × ν)}

def putSorted (key : String) (value : ν) : List (String × ν) → List (String × ν)
  | [] => [(key, value)]
  | (k, v) :: rest =>
    if key < k then (key, value) :: (k, v) :: rest
    else if key = k then (key, value) :: rest
    else (k, v) :: putSorted key value rest

theorem lookup_putSorted :
    (putSorted key value l).lookup k = if k = key then some value else l.lookup k := by
  induction l with
  | nil => exact lookup_cons_eq_ite (key, value) [] k
  | cons e l ih =>
    rw [putSorted]
    split
    · exact lookup_cons_eq_ite (key, value) (e :: l) k
    · split
      · next hkey =>
        rw [lookup_cons_eq_ite, lookup_cons_eq_ite, ← hkey]
        split
        · rfl
        · rfl
      · next hkey =>
        rw [lookup_cons_eq_ite, lookup_cons_eq_ite, ih]
        by_cases hk : k = e.1
        · rw [if_pos hk, if_pos hk, if_neg fun h => hkey (h.symm.trans hk)]
        · rw [if_neg hk, if_neg hk]

theorem mem_keys_putSorted (h : k ∈ (putSorted key value l).map Prod.fst) :
    k = key ∨ k ∈ l.map Prod.fst := by
  by_contra hnot
  obtain ⟨hkey, hl⟩ := not_or.1 hnot
  have hnone : (putSorted key value l).lookup k = none := by
    rw [lookup_putSorted, if_neg hkey, lookup_eq_none_iff_notMem.2 hl]
  exact lookup_eq_none_iff_notMem.1 hnone h

theorem pairwise_putSorted (h : (l.map Prod.fst).Pairwise (· < ·)) :
    ((putSorted key value l).map Prod.fst).Pairwise (· < ·) := by
  induction l with
  | nil => exact List.pairwise_singleton _ _
  | cons e l ih =>
    have hrest := List.pairwise_cons.1 h
    rw [putSorted]
    split
    · next hlt =>
      refine List.pairwise_cons.2 ⟨fun k hk => ?_, h⟩
      rcases List.mem_cons.1 hk with rfl | hk
      · exact hlt
      · exact hlt.trans (hrest.1 k hk)
    · next hnot =>
      split
      · next heq => exact heq ▸ h
      · next hne =>
        refine List.pairwise_cons.2 ⟨fun k hk => ?_, ih hrest.2⟩
        rcases mem_keys_putSorted hk with rfl | hk
        · exact lt_of_le_of_ne (not_lt.1 hnot) (Ne.symm hne)
        · exact hrest.1 k hk

/-- Entries in the order of their keys are known by what is found in them. -/
theorem eq_of_lookup (h : (l.map Prod.fst).Pairwise (· < ·))
    (h' : (l'.map Prod.fst).Pairwise (· < ·)) (hsame : ∀ k, l.lookup k = l'.lookup k) : l = l' := by
  have hnodup : ∀ {l : List (String × ν)}, (l.map Prod.fst).Pairwise (· < ·) →
      (l.map Prod.fst).Nodup := fun h => h.imp ne_of_lt
  have hperm : l.Perm l' := by
    refine (List.perm_ext_iff_of_nodup (hnodup h).of_map (hnodup h').of_map).2 fun e => ?_
    rw [← lookup_eq_some_iff_mem (hnodup h), hsame, lookup_eq_some_iff_mem (hnodup h')]
  refine hperm.eq_of_pairwise (fun a b _ _ hab hba => ?_) (List.pairwise_map.1 h)
    (List.pairwise_map.1 h')
  exact absurd hab (lt_asymm hba)

end Sorted

namespace TextMap

variable {m m' : TextMap} {key value k : String}

theorem insertInto_eq_putSorted (key value : String) (l : List (String × String)) :
    insertInto key value l = putSorted key value l := by
  induction l with
  | nil => rfl
  | cons e l ih => rw [insertInto, putSorted, ih]

theorem get?_insert : (m.insert key value).get? k = if k = key then some value else m.get? k := by
  have hentries : (m.insert key value).entries = putSorted key value m.entries :=
    insertInto_eq_putSorted key value m.entries
  rw [get?, hentries, lookup_putSorted]
  rfl

theorem ext_of_get? (h : ∀ k, m.get? k = m'.get? k) : m = m' := by
  have hentries : m.entries = m'.entries :=
    eq_of_lookup (List.pairwise_map.2 m.sorted) (List.pairwise_map.2 m'.sorted) h
  cases m
  cases m'
  cases hentries
  rfl

end TextMap

end GuestSpec

import GuestSpec.Parameters.Basic
import GuestSpec.Proofs.Text.Entries

/-!
# Parameters that are set one after the other

Setting parameters puts every new key behind those that are there, and the last value that a key is
set to counts. All ways to look at parameters tell the same about them.
-/

namespace GuestSpec

namespace Parameters

variable {p q : Parameters} {key value k v : String} {l : List (String × String)}

theorem put_of_notMem (h : key ∉ l.map Prod.fst) : put key value l = l ++ [(key, value)] := by
  induction l with
  | nil => rfl
  | cons e l ih =>
    obtain ⟨he, hl⟩ := not_or.1 (mt List.mem_cons.2 h)
    rw [put, if_neg (Ne.symm he), ih hl]
    rfl

/-- A key that is set again keeps its place. -/
theorem put_of_getElem? (h : (l.map Prod.fst).Nodup) {place : Nat}
    (hplace : (l.map Prod.fst)[place]? = some key) :
    put key value l = l.set place (key, value) := by
  induction l generalizing place with
  | nil => cases hplace
  | cons e l ih =>
    obtain ⟨he, hl⟩ := List.nodup_cons.1 h
    cases place with
    | zero =>
      obtain rfl : e.1 = key := Option.some.inj hplace
      exact if_pos rfl
    | succ place =>
      have hrest : (l.map Prod.fst)[place]? = some key := hplace
      have hne : e.1 ≠ key := (ne_of_mem_of_not_mem (List.mem_of_getElem? hrest) he).symm
      rw [put, if_neg hne, ih hl hrest, List.set_cons_succ]

theorem keys_put_of_mem (h : key ∈ l.map Prod.fst) :
    (put key value l).map Prod.fst = l.map Prod.fst := by
  induction l with
  | nil => cases h
  | cons e l ih =>
    rw [put]
    split
    · rfl
    · next hne =>
      have hl : key ∈ l.map Prod.fst := (List.mem_cons.1 h).resolve_left (Ne.symm hne)
      rw [List.map_cons, List.map_cons, ih hl]

theorem lookup_put : (put key value l).lookup k = if k = key then some value else l.lookup k := by
  induction l with
  | nil => exact lookup_cons_eq_ite (key, value) [] k
  | cons e l ih =>
    rw [put]
    split
    · next he =>
      subst he
      simp only [lookup_cons_eq_ite]
      split
      · rfl
      · rfl
    · next he =>
      rw [lookup_cons_eq_ite, lookup_cons_eq_ite, ih]
      by_cases hk : k = e.1
      · rw [if_pos hk, if_pos hk, if_neg fun hkey => he (hk.symm.trans hkey)]
      · rw [if_neg hk, if_neg hk]

/-! ## Keys and values -/

def keys (p : Parameters) : List String := p.entries.map Prod.fst

theorem get?_eq_some_iff : p.get? k = some v ↔ (k, v) ∈ p.entries :=
  lookup_eq_some_iff_mem p.nodup

theorem get?_eq_none_iff : p.get? k = none ↔ k ∉ p.keys :=
  lookup_eq_none_iff_notMem

theorem contains_iff : p.contains k = true ↔ k ∈ p.keys := by
  rw [contains, Option.isSome_iff_ne_none, ne_eq, get?_eq_none_iff, not_not]

/-- All ways to look at parameters agree: the keys are apart, a value is found by its key where an
entry has them both, and there are as many entries as keys. -/
structure Coherent (p : Parameters) : Prop where
  nodup : p.keys.Nodup
  get? : ∀ k v, p.get? k = some v ↔ (k, v) ∈ p.entries
  contains : ∀ k, p.contains k = true ↔ k ∈ p.keys
  size : p.size = p.keys.length

theorem coherent (p : Parameters) : p.Coherent where
  nodup := p.nodup
  get? _ _ := get?_eq_some_iff
  contains _ := contains_iff
  size := (List.length_map _).symm

/-- Parameters are known by their keys in order and by the values of these. -/
theorem ext_of_get? (hkeys : p.keys = q.keys) (hget : ∀ k, p.get? k = q.get? k) : p = q := by
  have hentries : p.entries = q.entries := by
    have hvalues : ∀ r : Parameters, r.entries = r.keys.map fun k => (k, (r.get? k).getD "") := by
      intro r
      rw [keys, List.map_map]
      refine (List.map_id _).symm.trans (List.map_congr_left fun e he => ?_)
      rw [Function.comp_apply, get?_eq_some_iff.2 he]
      rfl
    rw [hvalues p, hvalues q, hkeys]
    simp only [hget]
  cases p
  cases q
  cases hentries
  rfl

/-! ## Setting parameters -/

theorem get?_insert : (p.insert key value).get? k = if k = key then some value else p.get? k :=
  lookup_put

theorem keys_insert_of_mem (h : key ∈ p.keys) : (p.insert key value).keys = p.keys :=
  keys_put_of_mem h

theorem keys_insert_of_notMem (h : key ∉ p.keys) : (p.insert key value).keys = p.keys ++ [key] :=
  (congrArg (List.map Prod.fst) (put_of_notMem h)).trans List.map_append

theorem get?_insertAll (p : Parameters) (l : List (String × String)) (k : String) :
    (p.insertAll l).get? k = (l.reverse.lookup k).or (p.get? k) := by
  induction l generalizing p with
  | nil => rfl
  | cons e l ih =>
    have hstep : (p.insertAll (e :: l)).get? k = ((p.insert e.1 e.2).insertAll l).get? k := rfl
    rw [hstep, ih, get?_insert, List.reverse_cons, List.lookup_append, Option.or_assoc,
      lookup_cons_eq_ite]
    congr 1
    split
    · rfl
    · rfl

theorem keys_insertAll (p : Parameters) (l : List (String × String)) :
    (p.insertAll l).keys = (p.keys ++ l.map Prod.fst).eraseDups := by
  induction l generalizing p with
  | nil =>
    have hnone : p.insertAll [] = p := rfl
    rw [hnone, List.map_nil, List.append_nil, eraseDups_eq_self p.coherent.nodup]
  | cons e l ih =>
    have hstep : (p.insertAll (e :: l)).keys = ((p.insert e.1 e.2).insertAll l).keys := rfl
    rw [hstep, ih, List.map_cons]
    by_cases he : e.1 ∈ p.keys
    · have hremove :
          (e.1 :: l.map Prod.fst).removeAll p.keys = (l.map Prod.fst).removeAll p.keys := by
        rw [List.removeAll, List.filter_cons_of_neg (by simpa using he), List.removeAll]
      rw [keys_insert_of_mem he, List.eraseDups_append, List.eraseDups_append, hremove]
    · rw [keys_insert_of_notMem he, List.append_assoc, List.singleton_append]

theorem keys_ofList (l : List (String × String)) : (ofList l).keys = (l.map Prod.fst).eraseDups :=
  keys_insertAll empty l

theorem get?_ofList (l : List (String × String)) (k : String) :
    (ofList l).get? k = l.reverse.lookup k := by
  rw [ofList, get?_insertAll]
  exact Option.or_none

/-- Parameters are those of their entries. -/
theorem ofList_entries (p : Parameters) : ofList p.entries = p := by
  refine ext_of_get? ?_ fun k => ?_
  · rw [keys_ofList]
    exact eraseDups_eq_self p.nodup
  · rw [get?_ofList, lookup_reverse p.nodup]
    rfl

end Parameters

end GuestSpec

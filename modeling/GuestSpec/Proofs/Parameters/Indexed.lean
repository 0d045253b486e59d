import GuestSpec.Proofs.Parameters.Entries

/-!
# Parameters with an index

An index from keys to the places of their entries finds a value without going through all entries.
It stays in step with the entries, so that every place it gives is there, and parameters with an
index tell the same as parameters without one.
-/

namespace GuestSpec.Parameters

/-- Entries in order, and the place of the entry of every key. -/
structure Indexed where
  entries : List (String × String)
  index : Std.TreeMap String Nat
  inStep : ∀ (key : String) (place : Nat),
    index[key]? = some place ↔ (entries.map Prod.fst)[place]? = some key

namespace Indexed

variable {s : Indexed} {p : Parameters} {key value : String} {place : Nat}

theorem lt_length (s : Indexed) (h : s.index[key]? = some place) : place < s.entries.length := by
  obtain ⟨hlt, -⟩ := List.getElem?_eq_some_iff.1 ((s.inStep key place).1 h)
  simpa using hlt

def entryAt (s : Indexed) (h : s.index[key]? = some place) : String × String :=
  s.entries.get ⟨place, s.lt_length h⟩

theorem fst_entryAt (s : Indexed) (h : s.index[key]? = some place) : (s.entryAt h).1 = key := by
  obtain ⟨_, hkey⟩ := List.getElem?_eq_some_iff.1 ((s.inStep key place).1 h)
  simpa [entryAt] using hkey

theorem nodup (s : Indexed) : (s.entries.map Prod.fst).Nodup := by
  rw [List.nodup_iff_getElem?_ne_getElem?]
  intro i j hij hj hsame
  have hkey : (s.entries.map Prod.fst)[j]? = some (s.entries.map Prod.fst)[j] :=
    List.getElem?_eq_getElem hj
  -- the index gives one place only
  have hplace := (s.inStep _ j).2 hkey
  rw [(s.inStep _ i).2 (hsame.trans hkey)] at hplace
  exact hij.ne (Option.some.inj hplace)

def empty : Indexed where
  entries := []
  index := ∅
  inStep := by simp

theorem inStep_set (s : Indexed) (value : String) (h : s.index[key]? = some place) :
    ∀ (k : String) (i : Nat), s.index[k]? = some i ↔
      ((s.entries.set place ((s.entryAt h).1, value)).map Prod.fst)[i]? = some k := by
  intro k i
  obtain ⟨hlt, hkey⟩ := List.getElem?_eq_some_iff.1 ((s.inStep key place).1 h)
  rw [s.inStep, List.map_set, s.fst_entryAt h, ← hkey, List.set_getElem_self]

theorem inStep_append (s : Indexed) (value : String) (h : s.index[key]? = none) :
    ∀ (k : String) (i : Nat), (s.index.insert key s.entries.length)[k]? = some i ↔
      ((s.entries ++ [(key, value)]).map Prod.fst)[i]? = some k := by
  intro k i
  have hold := s.inStep k i
  simp only [Std.TreeMap.getElem?_insert, Std.LawfulEqCmp.compare_eq_iff_eq, List.map_append,
    List.getElem?_append, List.length_map]
  rcases Nat.lt_trichotomy i s.entries.length with hlt | heq | hgt
  · rw [if_pos hlt, ← hold]
    split
    · next hk =>
      subst hk
      rw [h]
      simp [hlt.ne']
    · rfl
  · subst heq
    rw [List.getElem?_eq_none (by simp)] at hold
    rw [if_neg (Nat.lt_irrefl _), Nat.sub_self]
    split
    · next hk => simp [hk]
    · next hk => simp [hold, hk]
  · rw [List.getElem?_eq_none (by simpa using hgt.le)] at hold
    rw [if_neg (Nat.lt_asymm hgt), List.getElem?_eq_none (by simp; omega)]
    split
    · simp [hgt.ne]
    · exact hold

def insert (s : Indexed) (key value : String) : Indexed :=
  match h : s.index[key]? with
  | some place =>
    { s with
      entries := s.entries.set place ((s.entryAt h).1, value)
      inStep := s.inStep_set value h }
  | none =>
    { entries := s.entries ++ [(key, value)]
      index := s.index.insert key s.entries.length
      inStep := s.inStep_append value h }

def insertAll (s : Indexed) (l : List (String × String)) : Indexed :=
  l.foldl (fun s e => s.insert e.1 e.2) s

def ofList (l : List (String × String)) : Indexed := empty.insertAll l

def get? (s : Indexed) (key : String) : Option String :=
  match h : s.index[key]? with
  | some _ => some (s.entryAt h).2
  | none => none

def contains (s : Indexed) (key : String) : Bool := s.index.contains key

def size (s : Indexed) : Nat := s.entries.length

def scopedTo (s : Indexed) (object : String) : Indexed :=
  s.insertAll (s.entries.filterMap (scopedValue? ("_" ++ object)))

/-- Parameters with an index tell the same as parameters without one: the entries in order, what is
found for a key, whether it is set, and how many there are. -/
structure Shows (s : Indexed) (p : Parameters) : Prop where
  entries : s.entries = p.entries
  get? : ∀ k, s.get? k = p.get? k
  contains : ∀ k, s.contains k = p.contains k
  size : s.size = p.size

theorem get?_of_entries (h : s.entries = p.entries) (k : String) : s.get? k = p.get? k := by
  rw [get?]
  split
  · next place hplace =>
    symm
    rw [get?_eq_some_iff, ← h]
    have hentry : s.entryAt hplace = (k, (s.entryAt hplace).2) :=
      Prod.ext (s.fst_entryAt hplace) rfl
    rw [← hentry]
    exact List.get_mem _ _
  · next hnone =>
    symm
    rw [get?_eq_none_iff, keys, ← h]
    intro hmem
    obtain ⟨place, hplace⟩ := List.mem_iff_getElem?.1 hmem
    rw [(s.inStep k place).2 hplace] at hnone
    cases hnone

theorem contains_eq_isSome_get? (s : Indexed) (k : String) : s.contains k = (s.get? k).isSome := by
  rw [contains, Std.TreeMap.contains_eq_isSome_getElem?, get?]
  split
  · next hplace => exact congrArg Option.isSome hplace
  · next hnone => exact congrArg Option.isSome hnone

theorem shows_of_entries (h : s.entries = p.entries) : s.Shows p where
  entries := h
  get? := get?_of_entries h
  contains k := by rw [contains_eq_isSome_get?, get?_of_entries h, Parameters.contains]
  size := congrArg List.length h

theorem entries_insert (h : s.entries = p.entries) (key value : String) :
    (s.insert key value).entries = (p.insert key value).entries := by
  have hput : (p.insert key value).entries = put key value s.entries := by
    rw [h]
    rfl
  rw [hput, insert]
  split
  · next place hplace =>
    rw [put_of_getElem? s.nodup ((s.inStep key place).1 hplace)]
    dsimp only
    rw [s.fst_entryAt hplace]
  · next hnone =>
    refine (put_of_notMem fun hmem => ?_).symm
    obtain ⟨place, hplace⟩ := List.mem_iff_getElem?.1 hmem
    rw [(s.inStep key place).2 hplace] at hnone
    cases hnone

theorem entries_insertAll (h : s.entries = p.entries) (l : List (String × String)) :
    (s.insertAll l).entries = (p.insertAll l).entries := by
  induction l generalizing s p with
  | nil => exact h
  | cons e l ih => exact ih (entries_insert h e.1 e.2)

theorem shows_ofList (l : List (String × String)) : (ofList l).Shows (Parameters.ofList l) :=
  shows_of_entries (entries_insertAll rfl l)

theorem Shows.scopedTo (h : s.Shows p) (object : String) :
    (s.scopedTo object).Shows (p.scopedTo object) := by
  refine shows_of_entries ?_
  rw [Indexed.scopedTo, h.entries]
  exact entries_insertAll h.entries _

end Indexed

end GuestSpec.Parameters

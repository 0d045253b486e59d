/-!
# Maps from text to text

A map keeps its entries in strictly increasing order of their keys, compared by code point. The
order is part of the type, so two maps with the same entries are equal.
-/

namespace GuestSpec

/-- A finite map from text to text. -/
structure TextMap where
  entries : List (String × String)
  sorted : entries.Pairwise fun a b => a.1 < b.1

namespace TextMap

/-- Puts an entry in its place; an entry with the same key is replaced. -/
def insertInto (key value : String) : List (String × String) → List (String × String)
  | [] => [(key, value)]
  | (k, v) :: rest =>
    if key < k then (key, value) :: (k, v) :: rest
    else if key = k then (key, value) :: rest
    else (k, v) :: insertInto key value rest

theorem mem_insertInto {key value : String} {a : String × String}
    {l : List (String × String)} (h : a ∈ insertInto key value l) :
    a = (key, value) ∨ a ∈ l := by
  induction l with
  | nil => simpa [insertInto] using h
  | cons e rest ih =>
    obtain ⟨k, v⟩ := e
    rw [insertInto] at h
    split at h
    · simpa using h
    · split at h
      · rcases List.mem_cons.1 h with rfl | h
        · exact .inl rfl
        · exact .inr (List.mem_cons_of_mem _ h)
      · rcases List.mem_cons.1 h with rfl | h
        · exact .inr List.mem_cons_self
        · exact (ih h).imp_right (List.mem_cons_of_mem _)

theorem sorted_insertInto {key value : String} {l : List (String × String)}
    (h : l.Pairwise fun a b => a.1 < b.1) :
    (insertInto key value l).Pairwise fun a b => a.1 < b.1 := by
  induction l with
  | nil => exact List.pairwise_singleton _ _
  | cons e rest ih =>
    obtain ⟨k, v⟩ := e
    have hrest := List.pairwise_cons.1 h
    rw [insertInto]
    split
    · next hlt =>
      refine List.pairwise_cons.2 ⟨fun a ha => ?_, h⟩
      rcases List.mem_cons.1 ha with rfl | ha
      · exact hlt
      · exact String.lt_trans hlt (hrest.1 a ha)
    · next hnot =>
      split
      · next heq =>
        subst heq
        exact List.pairwise_cons.2 ⟨fun a ha => hrest.1 a ha, hrest.2⟩
      · next hne =>
        refine List.pairwise_cons.2 ⟨fun a ha => ?_, ih hrest.2⟩
        rcases mem_insertInto ha with rfl | ha
        · exact Std.lt_of_le_of_ne (Std.not_lt.1 hnot) (Ne.symm hne)
        · exact hrest.1 a ha

def empty : TextMap := ⟨[], .nil⟩

def insert (m : TextMap) (key value : String) : TextMap :=
  ⟨insertInto key value m.entries, sorted_insertInto m.sorted⟩

/-- The map of a list of entries; of two entries with one key the later counts. -/
def ofList (l : List (String × String)) : TextMap :=
  l.foldl (fun m e => m.insert e.1 e.2) empty

def get? (m : TextMap) (key : String) : Option String := m.entries.lookup key

def isEmpty (m : TextMap) : Bool := m.entries.isEmpty

instance : Inhabited TextMap := ⟨empty⟩

instance : DecidableEq TextMap := fun a b =>
  if h : a.entries = b.entries then
    .isTrue (by cases a; cases b; cases h; rfl)
  else
    .isFalse fun e => h (congrArg entries e)

example : (ofList [("b", "1"), ("a", "2"), ("b", "3")]).entries = [("a", "2"), ("b", "3")] := by
  decide +kernel

end TextMap

end GuestSpec

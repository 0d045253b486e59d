import GuestSpec.Json.Sorted
import GuestSpec.Proofs.Text.Entries

/-!
# Fields in the order of their names

In a list of fields the last one of a name counts. Sorting leaves of every name this one field.
-/

namespace GuestSpec.Json

variable {fields : List (String × Json)} {name : String} {j : Json}

/-- The value that counts for a name. -/
def lastValue? (fields : List (String × Json)) (name : String) : Option Json :=
  fields.reverse.lookup name

theorem lastValue?_concat (fields : List (String × Json)) (f : String × Json) (name : String) :
    lastValue? (fields ++ [f]) name = if name = f.1 then some f.2 else lastValue? fields name := by
  rw [lastValue?, List.reverse_append, List.reverse_singleton, List.singleton_append,
    lookup_cons_eq_ite]
  rfl

theorem putField_eq_putSorted (name : String) (j : Json) (fields : List (String × Json)) :
    putField name j fields = putSorted name j fields := by
  induction fields with
  | nil => rfl
  | cons f fields ih => rw [putField, putSorted, ih]

theorem sortFields_concat (fields : List (String × Json)) (f : String × Json) :
    sortFields (fields ++ [f]) = putSorted f.1 f.2 (sortFields fields) := by
  rw [← putField_eq_putSorted]
  exact List.foldl_concat _ _ _ _

theorem lookup_sortFields (fields : List (String × Json)) (name : String) :
    (sortFields fields).lookup name = lastValue? fields name := by
  induction fields using List.reverseRecOn with
  | nil => rfl
  | append_singleton fields f ih =>
    rw [sortFields_concat, lookup_putSorted, lastValue?_concat, ih]

theorem pairwise_sortFields (fields : List (String × Json)) :
    ((sortFields fields).map Prod.fst).Pairwise (· < ·) := by
  induction fields using List.reverseRecOn with
  | nil => exact .nil
  | append_singleton fields f ih =>
    rw [sortFields_concat]
    exact pairwise_putSorted ih

theorem nodup_sortFields (fields : List (String × Json)) :
    ((sortFields fields).map Prod.fst).Nodup := (pairwise_sortFields fields).imp ne_of_lt

/-- A field is among the sorted ones where it is the last of its name. -/
theorem mem_sortFields_iff : (name, j) ∈ sortFields fields ↔ lastValue? fields name = some j := by
  rw [← lookup_sortFields, lookup_eq_some_iff_mem (nodup_sortFields fields)]

/-- Sorting does not change what counts for a name. -/
theorem lastValue?_sortFields (fields : List (String × Json)) (name : String) :
    lastValue? (sortFields fields) name = lastValue? fields name := by
  rw [lastValue?, lookup_reverse (nodup_sortFields fields), lookup_sortFields]

end GuestSpec.Json

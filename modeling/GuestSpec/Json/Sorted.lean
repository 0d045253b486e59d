import GuestSpec.Json.Basic

/-!
# Sorted documents

Puts the fields of all objects of a document in the order of their names. Of two fields with one
name the later counts.
-/

namespace GuestSpec.Json

/-- Puts a field in its place among sorted fields; a field with the same name is replaced. -/
def putField (name : String) (j : Json) : List (String × Json) → List (String × Json)
  | [] => [(name, j)]
  | (n, k) :: rest =>
    if name < n then (name, j) :: (n, k) :: rest
    else if name = n then (name, j) :: rest
    else (n, k) :: putField name j rest

def sortFields (fields : List (String × Json)) : List (String × Json) :=
  fields.foldl (fun acc f => putField f.1 f.2 acc) []

mutual

/-- The document with the fields of all objects sorted. -/
def sorted : Json → Json
  | arr items => arr (sortedItems items)
  | obj fields => obj (sortFields (sortedFields fields))
  | j => j

def sortedItems : List Json → List Json
  | [] => []
  | j :: rest => sorted j :: sortedItems rest

def sortedFields : List (String × Json) → List (String × Json)
  | [] => []
  | (n, j) :: rest => (n, sorted j) :: sortedFields rest

end

end GuestSpec.Json

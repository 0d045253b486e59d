import GuestSpec.Decimal.Reader
import GuestSpec.Parameters.Size
import GuestSpec.Text.Map
import GuestSpec.Text.Quoted

/-!
# Parameters

An ordered set of named text values. A parameter that is meant for one object only has the name of
the object behind its own: the object `stg` sees the value of `image_format_stg` under the name
`image_format`.
-/

namespace GuestSpec

/-- Named values in the order in which the names were first set. -/
structure Parameters where
  entries : List (String × String)
  nodup : (entries.map (·.1)).Nodup

/-- A parameter that is missing or that does not have the expected form. -/
inductive Parameters.Error where
  | missing (key : String)
  | invalid (key value expected : String)
  deriving DecidableEq

namespace Parameters

def Error.message : Error → String
  | .missing key => "required parameter " ++ Text.quoted key ++ " is missing"
  | .invalid key value expected =>
    "parameter " ++ Text.quoted key ++ " has invalid value " ++ Text.quoted value ++
      " (expected " ++ expected ++ ")"

/-- Sets a value where its key stands, or behind all others. -/
def put (key value : String) : List (String × String) → List (String × String)
  | [] => [(key, value)]
  | (k, v) :: rest => if k = key then (k, value) :: rest else (k, v) :: put key value rest

theorem mem_keys_put {key value k : String} {l : List (String × String)} :
    k ∈ (put key value l).map (·.1) ↔ k = key ∨ k ∈ l.map (·.1) := by
  induction l with
  | nil => simp [put]
  | cons e rest ih =>
    obtain ⟨k', v'⟩ := e
    rw [put]
    split
    · next h => subst h; simp
    · simp only [List.map_cons, List.mem_cons, ih]
      constructor <;> rintro (h | h | h) <;> simp [h]

theorem nodup_keys_put {key value : String} {l : List (String × String)}
    (h : (l.map (·.1)).Nodup) : ((put key value l).map (·.1)).Nodup := by
  induction l with
  | nil => simp [put]
  | cons e rest ih =>
    obtain ⟨k', v'⟩ := e
    simp only [List.map_cons, List.nodup_cons] at h
    rw [put]
    split
    · simpa using h
    · next hne =>
      simp only [List.map_cons, List.nodup_cons]
      refine ⟨fun hmem => ?_, ih h.2⟩
      rcases mem_keys_put.1 hmem with h' | h'
      · exact hne h'
      · exact h.1 h'

def empty : Parameters := ⟨[], .nil⟩

instance : Inhabited Parameters := ⟨empty⟩

/-- Sets a parameter. A key that is set again keeps its place. -/
def insert (p : Parameters) (key value : String) : Parameters :=
  ⟨put key value p.entries, nodup_keys_put p.nodup⟩

def insertAll (p : Parameters) (l : List (String × String)) : Parameters :=
  l.foldl (fun p e => p.insert e.1 e.2) p

def ofList (l : List (String × String)) : Parameters := empty.insertAll l

def get? (p : Parameters) (key : String) : Option String := p.entries.lookup key

def getD (p : Parameters) (key default : String) : String := (p.get? key).getD default

def contains (p : Parameters) (key : String) : Bool := (p.get? key).isSome

def size (p : Parameters) : Nat := p.entries.length

def require (p : Parameters) (key : String) : Except Error String :=
  match p.get? key with
  | some v => .ok v
  | none => .error (.missing key)

def switch? (value : String) : Option Bool :=
  let word := Text.lowerAscii (Text.trim value)
  if ["yes", "on", "true", "1"].contains word then some true
  else if ["no", "off", "false", "0"].contains word then some false
  else none

def bool? (p : Parameters) (key : String) : Except Error (Option Bool) :=
  match p.get? key with
  | none => .ok none
  | some value =>
    match switch? value with
    | some b => .ok (some b)
    | none => .error (.invalid key value "yes or no")

def boolD (p : Parameters) (key : String) (default : Bool) : Except Error Bool :=
  return (← p.bool? key).getD default

/-- A parameter in a form of its own. An empty value counts as none. -/
def read? {α : Type} (p : Parameters) (key expected : String) (ofText? : String → Option α) :
    Except Error (Option α) :=
  match (p.get? key).map Text.trim with
  | none => .ok none
  | some value =>
    if value = "" then .ok none
    else match ofText? value with
      | some a => .ok (some a)
      | none => .error (.invalid key value expected)

def number? {α : Type} (p : Parameters) (key : String) (ofText? : String → Option α) :
    Except Error (Option α) :=
  p.read? key "a number" ofText?

def uint8? (p : Parameters) (key : String) : Except Error (Option UInt8) :=
  p.number? key Numeral.uint8?

def uint16? (p : Parameters) (key : String) : Except Error (Option UInt16) :=
  p.number? key Numeral.uint16?

def uint32? (p : Parameters) (key : String) : Except Error (Option UInt32) :=
  p.number? key Numeral.uint32?

def uint64? (p : Parameters) (key : String) : Except Error (Option UInt64) :=
  p.number? key Numeral.uint64?

def float? (p : Parameters) (key : String) : Except Error (Option Float) :=
  p.number? key fun s => Decimal.float? s.toList

/-- A memory size in mebibytes. -/
def size? (p : Parameters) (key : String) : Except Error (Option UInt64) :=
  p.read? key "a size in MiB" Size.mebibytes?

/-- The names in a list of objects. -/
def objects (p : Parameters) (key : String) : List String :=
  match p.get? key with
  | some value => Text.words value
  | none => []

/-- What one entry of the parameters means for an object: a value under the name without the name
of the object. -/
def scopedValue? (suffix : String) (e : String × String) : Option (String × String) :=
  match Text.beforeTrailing? suffix e.1 with
  | some key => if key = "" then none else some (key, e.2)
  | none => none

/-- The parameters as an object sees them. -/
def scopedTo (p : Parameters) (object : String) : Parameters :=
  p.insertAll (p.entries.filterMap (scopedValue? ("_" ++ object)))

/-- Reads the items of a list of properties `name=value` into a map. -/
def properties? : List String → Option TextMap
  | items => items.foldlM (fun m item => do
      let (name, value) ← Text.splitFirst? '=' item
      return m.insert (Text.trim name) (Text.trim value)) TextMap.empty

def properties (p : Parameters) (key : String) : Except Error TextMap :=
  match p.get? key with
  | none => .ok .empty
  | some raw =>
    let items := ((Text.splitWhere (· == ',') raw).map Text.trim).filter (· != "")
    match properties? items with
    | some m => .ok m
    | none => .error (.invalid key raw "key=value")

end Parameters

end GuestSpec

import GuestSpec.Json.Basic

/-!
# Documents of a type

How values of a type are written as documents and read back. A record is an object that holds each
of its names at most once and no other name, or an array of its fields in order. A tagged value is
an object whose tag field names the case, or an array that starts with the name of the case. What
stands inside a tagged value is read with more freedom than the rest of a document.
-/

namespace GuestSpec

/-- A part of a document that is being read. -/
structure Json.Part where
  value : Json
  /-- Whether the part stands inside a tagged value. -/
  inside : Bool

/-- Types whose values are written as documents and read back. -/
class Codec (α : Type) where
  encode : α → Json
  read? : Json.Part → Option α

export Codec (encode read?)

def decode? {α : Type} [Codec α] (j : Json) : Option α := read? ⟨j, false⟩

/-- Types with finitely many values, each known by a name. -/
class Named (α : Type) where
  all : List α
  name : α → String

def Named.ofName? {α : Type} [Named α] (s : String) : Option α :=
  (Named.all : List α).find? fun a => Named.name a == s

/-- A name alone, or an object whose one field has that name and no value. Inside a tagged value an
empty object also counts as no value. -/
instance (priority := low) {α : Type} [Named α] : Codec α where
  encode a := .str (Named.name a)
  read?
    | ⟨.str s, _⟩ => Named.ofName? s
    | ⟨.obj [(s, .null)], _⟩ => Named.ofName? s
    | ⟨.obj [(s, .obj [])], true⟩ => Named.ofName? s
    | _ => none

instance : Codec Bool where
  encode := .bool
  read?
    | ⟨.bool b, _⟩ => some b
    | _ => none

instance : Codec String where
  encode := .str
  read?
    | ⟨.str s, _⟩ => some s
    | _ => none

/-- A natural number of at most `max`. -/
def Json.natUpTo? (max : Nat) : Json → Option Nat
  | .int (.ofNat n) => if n ≤ max then some n else none
  | _ => none

instance : Codec UInt8 where
  encode n := .int n.toNat
  read? p := (p.value.natUpTo? 0xFF).map UInt8.ofNat

instance : Codec UInt16 where
  encode n := .int n.toNat
  read? p := (p.value.natUpTo? 0xFFFF).map UInt16.ofNat

instance : Codec UInt32 where
  encode n := .int n.toNat
  read? p := (p.value.natUpTo? 0xFFFFFFFF).map UInt32.ofNat

instance : Codec UInt64 where
  encode n := .int n.toNat
  read? p := (p.value.natUpTo? 0xFFFFFFFFFFFFFFFF).map UInt64.ofNat

instance {α : Type} [Codec α] : Codec (List α) where
  encode l := .arr (l.map encode)
  read?
    | ⟨.arr items, inside⟩ => items.mapM fun j => read? ⟨j, inside⟩
    | _ => none

/-- An absent value is written as null. -/
instance {α : Type} [Codec α] : Codec (Option α) where
  encode
    | none => .null
    | some a => encode a
  read?
    | ⟨.null, _⟩ => some none
    | p => (read? p).map some

namespace Json

/-- The field of a record that must be present. -/
def field {α : Type} [Codec α] (name : String) (a : α) : List (String × Json) :=
  [(name, encode a)]

/-- The field of a record that is left out when there is no value. -/
def optional {α : Type} [Codec α] (name : String) : Option α → List (String × Json)
  | none => []
  | some a => [(name, encode a)]

/-- The field of a record that is left out when the list is empty. -/
def nonempty {α : Type} [Codec α] (name : String) : List α → List (String × Json)
  | [] => []
  | l => [(name, encode l)]

/-- The fields of a record, each name at most once. -/
structure Record where
  fields : List (String × Json)
  /-- Whether the record stands inside a tagged value. -/
  inside : Bool

def record? (names : List String) : Part → Option Record
  | ⟨.obj fields, inside⟩ =>
    let keys := fields.map (·.1)
    if keys.all (names.contains ·) && decide keys.Nodup then some ⟨fields, inside⟩ else none
  | ⟨.arr items, inside⟩ =>
    if items.length ≤ names.length then some ⟨names.zip items, inside⟩ else none
  | _ => none

def Record.find? (r : Record) (name : String) : Option Part :=
  (r.fields.lookup name).map fun j => ⟨j, r.inside⟩

def Record.get {α : Type} [Codec α] (r : Record) (name : String) : Option α :=
  (r.find? name).bind read?

/-- A field that may be absent or null. -/
def Record.get? {α : Type} [Codec α] (r : Record) (name : String) : Option (Option α) :=
  match r.find? name with
  | none => some none
  | some p => read? p

/-- A field that has a value of its own when it is absent. -/
def Record.getD {α : Type} [Codec α] (r : Record) (name : String) (default : α) : Option α :=
  match r.find? name with
  | none => some default
  | some p => read? p

/-- The case that a tag stands for: the one that it names. Inside a tagged value a tag may also be
the position of its case. -/
def caseOf? {β : Type} (cases : List (String × β)) : Part → Option β
  | ⟨.str name, _⟩ => cases.lookup name
  | ⟨.int (.ofNat n), true⟩ => cases[n]?.map (·.2)
  | _ => none

/-- Reads a tagged value. The case of the tag reads what stands beside it. -/
def tagged? {α : Type} (tag : String) (cases : List (String × (Part → Option α))) :
    Part → Option α
  | ⟨.obj fields, inside⟩ =>
    match fields.filter (·.1 == tag) with
    | [(_, name)] => do (← caseOf? cases ⟨name, inside⟩) ⟨.obj (fields.filter (·.1 != tag)), true⟩
    | _ => none
  | ⟨.arr (name :: items), inside⟩ => do (← caseOf? cases ⟨name, inside⟩) ⟨.arr items, true⟩
  | _ => none

/-- Accepts the rest of a tagged value whose case has no fields. Fields beside the tag are
ignored. -/
def noFields? {α : Type} (a : α) : Part → Option α
  | ⟨.obj _, _⟩ => some a
  | ⟨.arr [], _⟩ => some a
  | _ => none

def tagging (tag name : String) (fields : List (String × Json)) : Json :=
  .obj ((tag, .str name) :: fields)

def taggingRecord (tag name : String) : Json → Json
  | .obj fields => tagging tag name fields
  | j => j

end Json

end GuestSpec

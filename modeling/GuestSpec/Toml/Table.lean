/-!
# Tables of configuration files

The value of a TOML document and the ways in which its lines extend it. A table remembers how it
came to be, because that decides what later lines may add to it: a table is opened by one header
only, a dotted key extends only what dotted keys have made, and inline values are closed. Within an
inline table a dotted key extends any table that stands there.
-/

namespace GuestSpec.Toml

/-- How a table came to be. -/
inductive Origin where
  /-- The table of a header. -/
  | header
  /-- A table that stands only in the path of a header. -/
  | implied
  /-- A table made by a dotted key. -/
  | dotted
  /-- An inline table. -/
  | inline
  deriving DecidableEq

/-- A value. Tables keep the order in which their keys were set. -/
inductive Value where
  | string (s : String)
  | integer (n : Int)
  /-- A binary64 number given by its bits. -/
  | float (bits : UInt64)
  | boolean (b : Bool)
  /-- A date, a time or both, of which nothing more is kept. -/
  | moment
  | array (items : List Value)
  | table (origin : Origin) (entries : List (String × Value))
  /-- An array whose tables are opened by headers, the newest last. -/
  | tables (items : List (List (String × Value)))
  deriving Inhabited

abbrev Entries := List (String × Value)

namespace Entries

def replace (key : String) (v : Value) (es : Entries) : Entries :=
  es.map fun e => if e.1 == key then (key, v) else e

def remove (key : String) (es : Entries) : Entries := es.filter fun e => e.1 != key

/-- Changes the table that a path leads to. Tables that the path needs are made: implied ones on
the path of a header, dotted ones on the path of a key. The change sees the origin of its table. -/
def edit (dotted : Bool) (change : Origin → Entries → Option Entries) :
    List String → Origin → Entries → Option Entries
  | [], origin, es => change origin es
  | key :: path, _, es =>
    match es.lookup key with
    | none => do
      let made := if dotted then Origin.dotted else Origin.implied
      let sub ← edit dotted change path made []
      return es ++ [(key, .table made sub)]
    | some (.table origin sub) =>
      if origin = .inline ∨ (dotted ∧ origin = .header) then none
      else do
        let sub ← edit dotted change path origin sub
        return es.replace key (.table origin sub)
    | some (.tables items) => do
      let newest ← items.getLast?
      let newest ← edit dotted change path .header newest
      return es.replace key (.tables (items.dropLast ++ [newest]))
    | some _ => none

def define (key : String) (v : Value) (es : Entries) : Option Entries :=
  if (es.lookup key).isSome then none else some (es ++ [(key, v)])

/-- Sets the value of a dotted key. The table of its last name is the present one or was made by
dotted keys. -/
def set (path : List String) (key : String) (v : Value) (origin : Origin) (es : Entries) :
    Option Entries :=
  edit true (fun reached es =>
    if !path.isEmpty && reached != .dotted then none else define key v es) path origin es

def setInline : List String → String → Value → Entries → Option Entries
  | [], key, v, es => define key v es
  | name :: path, key, v, es =>
    match es.lookup name with
    | none => do return es ++ [(name, .table .inline (← setInline path key v []))]
    | some (.table origin sub) => do
      return es.replace name (.table origin (← setInline path key v sub))
    | some _ => none

/-- Opens a table by its header. A table that only stood in the paths of headers moves to the end,
where it is opened. -/
def openTable (path : List String) (key : String) (es : Entries) : Option Entries :=
  edit false (fun _ es =>
    match es.lookup key with
    | none => some (es ++ [(key, .table .header [])])
    | some (.table .implied sub) => some (remove key es ++ [(key, .table .header sub)])
    | some _ => none) path .header es

def openItem (path : List String) (key : String) (es : Entries) : Option Entries :=
  edit false (fun _ es =>
    match es.lookup key with
    | none => some (es ++ [(key, .tables [[]])])
    | some (.tables items) => some (es.replace key (.tables (items ++ [[]])))
    | some _ => none) path .header es

/-- Sets the value of a dotted key in the table that the last header has opened. -/
def setWithin (opened path : List String) (key : String) (v : Value) (es : Entries) :
    Option Entries :=
  edit false (set path key v) opened .header es

end Entries

end GuestSpec.Toml

import GuestSpec.Toml.Moment
import GuestSpec.Toml.Scalar

/-!
# Reading configuration files

Reads a TOML document into its table. Lines are read one after the other; each either opens a
table or sets a key of the table opened last.
-/

namespace GuestSpec.Toml

/-- Arrays and inline tables stand inside each other less deep than this, and a dotted key has
fewer names. -/
def depthLimit : Nat := 128

/-! ## Keys -/

/-- Characters of a name without quotes. -/
def isBare (c : Char) : Bool := c.isAlphanum || c == '_' || c == '-'

def readName? : List Char → Option (String × List Char)
  | '"' :: s => readBasic? (s.length + 1) [] s
  | '\'' :: s => readLiteral? s
  | s =>
    match s.takeWhile isBare with
    | [] => none
    | name => some (String.ofList name, s.dropWhile isBare)

def readNames? : Nat → List Char → Option (List String × List Char)
  | 0, _ => none
  | fuel + 1, s =>
    match readName? (skipSpace s) with
    | none => none
    | some (name, r) =>
      match skipSpace r with
      | '.' :: r => (readNames? fuel r).map fun (names, r) => (name :: names, r)
      | r => some ([name], r)

/-- Reads a key: the names on its path and its last name. -/
def readKey? (s : List Char) : Option (List String × String × List Char) := do
  let (names, rest) ← readNames? (s.length + 1) s
  if depthLimit ≤ names.length then none
  return (names.dropLast, ← names.getLast?, rest)

/-! ## Values -/

def skipComment : List Char → List Char
  | '#' :: s => s.dropWhile isPlain
  | s => s

/-- Removes spaces, comments and ends of lines between the items of an array. -/
def skipLines? : Nat → List Char → Option (List Char)
  | 0, _ => none
  | fuel + 1, s =>
    match skipSpace s with
    | '#' :: r =>
      match newline? (skipComment ('#' :: r)) with
      | some r => skipLines? fuel r
      | none => none
    | r =>
      match newline? r with
      | some r => skipLines? fuel r
      | none => some r

/-- Reads a value that is neither an array nor an inline table. -/
def readScalar? : List Char → Option (Value × List Char)
  | 't' :: 'r' :: 'u' :: 'e' :: r => some (.boolean true, r)
  | 'f' :: 'a' :: 'l' :: 's' :: 'e' :: r => some (.boolean false, r)
  | s =>
    match readString? s with
    | some (t, r) => some (.string t, r)
    | none =>
      match skipMoment? s with
      | some r => some (.moment, r)
      | none => readNumber? s

mutual

/-- Reads a value; `depth` is how many arrays and inline tables may still stand inside each
other. -/
def readValue? (fuel depth : Nat) (s : List Char) : Option (Value × List Char) :=
  match fuel, depth with
  | 0, _ => none
  | fuel + 1, depth =>
    match s with
    | '[' :: r =>
      match depth with
      | 0 => none
      | depth + 1 => (readItems? fuel depth r).map fun (items, r) => (.array items, r)
    | '\x7b' :: r =>
      match depth with
      | 0 => none
      | depth + 1 =>
        match skipSpace r with
        | '\x7d' :: r => some (.table .inline [], r)
        | r => (readPairs? fuel depth [] r).map fun (es, r) => (.table .inline es, r)
    | r => readScalar? r

def readItems? (fuel depth : Nat) (s : List Char) : Option (List Value × List Char) :=
  match fuel with
  | 0 => none
  | fuel + 1 =>
    match skipLines? (s.length + 1) s with
    | none => none
    | some (']' :: r) => some ([], r)
    | some r =>
      match readValue? fuel depth r with
      | none => none
      | some (v, r) =>
        match skipLines? (r.length + 1) r with
        | some (',' :: r) => (readItems? fuel depth r).map fun (vs, r) => (v :: vs, r)
        | some (']' :: r) => some ([v], r)
        | _ => none

def readPairs? (fuel depth : Nat) (es : Entries) (s : List Char) :
    Option (Entries × List Char) :=
  match fuel with
  | 0 => none
  | fuel + 1 =>
    match readKey? s with
    | some (path, key, '=' :: r) =>
      match readValue? fuel depth (skipSpace r) with
      | none => none
      | some (v, r) =>
        match es.setInline path key v with
        | none => none
        | some es =>
          match skipSpace r with
          | ',' :: r => readPairs? fuel depth es r
          | '\x7d' :: r => some (es, r)
          | _ => none
    | _ => none

end

/-! ## Lines -/

/-- A line of a document that is not blank. -/
inductive Line where
  | table (path : List String) (key : String)
  | item (path : List String) (key : String)
  | setting (path : List String) (key : String) (v : Value)

/-- Reads the rest of a line: spaces, a comment that may be left out, and the end. -/
def endLine? (s : List Char) : Option (List Char) :=
  match skipComment (skipSpace s) with
  | [] => some []
  | r => newline? r

def readLine? : List Char → Option (Line × List Char)
  | '[' :: '[' :: s =>
    match readKey? s with
    | some (path, key, ']' :: ']' :: r) => (endLine? r).map fun r => (.item path key, r)
    | _ => none
  | '[' :: s =>
    match readKey? s with
    | some (path, key, ']' :: r) => (endLine? r).map fun r => (.table path key, r)
    | _ => none
  | s =>
    match readKey? s with
    | some (path, key, '=' :: r) => do
      let (v, r) ← readValue? (2 * r.length + 2) (depthLimit - 1) (skipSpace r)
      let r ← endLine? r
      return (.setting path key v, r)
    | _ => none

def readLines : Nat → List Char → Option (List Line)
  | 0, _ => none
  | fuel + 1, s =>
    match skipSpace s with
    | [] => some []
    | '#' :: r => (endLine? ('#' :: r)).bind (readLines fuel)
    | r =>
      match newline? r with
      | some r => readLines fuel r
      | none =>
        match readLine? r with
        | none => none
        | some (line, r) => (readLines fuel r).map (line :: ·)

/-- A document under construction: its table and the path of the header read last. -/
structure Document where
  root : Entries
  opened : List String

def Document.add (d : Document) : Line → Option Document
  | .table path key => do return ⟨← d.root.openTable path key, path ++ [key]⟩
  | .item path key => do return ⟨← d.root.openItem path key, path ++ [key]⟩
  | .setting path key v => do return ⟨← d.root.setWithin d.opened path key v, d.opened⟩

def dropMark : List Char → List Char
  | '\ufeff' :: s => s
  | s => s

def parse? (s : String) : Option Entries := do
  let cs := dropMark s.toList
  let lines ← readLines (cs.length + 1) cs
  let d ← lines.foldlM Document.add ⟨[], []⟩
  return d.root

end GuestSpec.Toml

import GuestSpec.Decimal.Layout
import GuestSpec.Parameters.Basic
import GuestSpec.Toml.Reader

/-!
# Files of parameters

A file holds parameters as lines `key = value` or, when its name ends in `.toml`, as a TOML
document.
-/

namespace GuestSpec

namespace Parameters

inductive LoadError where
  /-- The text is not a TOML document. -/
  | document
  /-- The file is not there. -/
  | absent
  /-- A line is not of the form `key = value`. -/
  | line (number : Nat) (text : String)
  /-- A value of the document has no form as a parameter. -/
  | value (key : String)
  deriving DecidableEq

def LoadError.message : LoadError → String
  | .document => "malformed document"
  | .absent => "file not found"
  | .line number text =>
    "line " ++ String.ofList (Numeral.decimal number) ++ ": expected \x60key = value\x60, got " ++
      Text.quoted text
  | .value key => "value of " ++ key ++ " cannot be used as a parameter"

/-! ## Lines -/

/-- What a line holds. -/
inductive Entry where
  /-- Nothing: the line is blank or a comment. -/
  | blank
  | setting (key value : String)
  | malformed
  deriving DecidableEq

/-- Reads a line without blanks at its ends. -/
def entryOf (line : String) : Entry :=
  if line = "" ∨ line.toList.head? = some '#' then .blank
  else match Text.splitFirst? '=' line with
    | none => .malformed
    | some (key, value) =>
      if Text.trim key = "" then .malformed else .setting (Text.trim key) (Text.trim value)

/-- Adds lines to parameters; `number` is the number of the first of them. -/
def addLines (p : Parameters) (number : Nat) : List String → Except LoadError Parameters
  | [] => .ok p
  | line :: rest =>
    let line := Text.trim line
    match entryOf line with
    | .blank => addLines p (number + 1) rest
    | .setting key value => addLines (p.insert key value) (number + 1) rest
    | .malformed => .error (.line number line)

/-- Reads lines `key = value`. Blank lines and lines that start with `#` are skipped. -/
def ofText (s : String) : Except LoadError Parameters := addLines empty 1 (Text.lines s)

/-! ## Documents -/

mutual

/-- The text of a value of a document, unless it is a table or a date. -/
def scalarText? : Toml.Value → Option String
  | .string s => some s
  | .integer n =>
    some (String.ofList
      (if n < 0 then '-' :: Numeral.decimal n.natAbs else Numeral.decimal n.natAbs))
  | .float bits => some (String.ofList (Decimal.positional bits))
  | .boolean b => some (if b then "yes" else "no")
  | .moment => none
  | .array items => (itemTexts? items).map (String.intercalate " ")
  | .table _ _ => none
  | .tables _ => none

def itemTexts? : List Toml.Value → Option (List String)
  | [] => some []
  | v :: vs => do
    let s ← scalarText? v
    let rest ← itemTexts? vs
    return s :: rest

end

def insertValue (p : Parameters) (key : String) (v : Toml.Value) : Except LoadError Parameters :=
  match scalarText? v with
  | some s => .ok (p.insert key s)
  | none => .error (.value key)

/-- Adds an entry of a document. The keys of a table are scoped to the object that it names. -/
def insertEntry (p : Parameters) : String × Toml.Value → Except LoadError Parameters
  | (object, .table _ entries) =>
    entries.foldlM (fun p e => p.insertValue (e.1 ++ "_" ++ object) e.2) p
  | (key, v) => p.insertValue key v

def ofDocument (s : String) : Except LoadError Parameters :=
  match (Toml.parse? s).bind Toml.settleEntries? with
  | none => .error .document
  | some entries => entries.foldlM insertEntry empty

/-! ## Files -/

def fileName (path : String) : String :=
  match Text.splitLast? '/' path with
  | some (_, name) => name
  | none => path

/-- What follows the last point of a file's name, unless the point comes first. -/
def extension? (path : String) : Option String :=
  match Text.splitLast? '.' (fileName path) with
  | some (stem, ext) => if stem = "" then none else some ext
  | none => none

def ofFile (path : String) (content : Option String) : Except LoadError Parameters :=
  match content with
  | none => .error .absent
  | some s => if extension? path = some "toml" then ofDocument s else ofText s

end Parameters

end GuestSpec

import GuestSpec.Decimal.Reader
import GuestSpec.Toml.Table

/-!
# Scalars of configuration files

Strings in their four forms, integers and floats. Every reader takes the text from the first
character of the value on and returns what follows the value.
-/

namespace GuestSpec.Toml

/-- Spaces and tabs. -/
def isSpace (c : Char) : Bool := c == ' ' || c == '\t'

/-- Characters that may stand for themselves in comments and strings. -/
def isPlain (c : Char) : Bool := c == '\t' || (' ' ≤ c && c ≤ '~') || 0x80 ≤ c.toNat

def skipSpace (s : List Char) : List Char := s.dropWhile isSpace

def newline? : List Char → Option (List Char)
  | '\n' :: s => some s
  | '\r' :: '\n' :: s => some s
  | _ => none

/-! ## Strings -/

def unescape? : Char → Option Char
  | 'b' => some '\x08'
  | 't' => some '\t'
  | 'n' => some '\n'
  | 'f' => some '\x0c'
  | 'r' => some '\r'
  | '"' => some '"'
  | '\\' => some '\\'
  | _ => none

def readCode? (width : Nat) (s : List Char) : Option (Char × List Char) := do
  if s.length < width then none
  let n ← Numeral.digits? 16 (s.take width)
  if n.isValidChar then some (Char.ofNat n, s.drop width) else none

/-- Reads what follows a backslash. -/
def readEscape? : List Char → Option (Char × List Char)
  | 'u' :: s => readCode? 4 s
  | 'U' :: s => readCode? 8 s
  | c :: s => (unescape? c).map fun d => (d, s)
  | [] => none

/-- Reads a string of one line up to its closing quote. -/
def readBasic? : Nat → List Char → List Char → Option (String × List Char)
  | 0, _, _ => none
  | _, _, [] => none
  | fuel + 1, acc, c :: s =>
    if c = '"' then some (String.ofList acc.reverse, s)
    else if c = '\\' then
      match readEscape? s with
      | some (d, r) => readBasic? fuel (d :: acc) r
      | none => none
    else if isPlain c then readBasic? fuel (c :: acc) s
    else none

/-- Reads a string of one line without escapes up to its closing quote. -/
def readLiteral? (s : List Char) : Option (String × List Char) :=
  let body := s.takeWhile fun c => isPlain c && c != '\''
  match s.drop body.length with
  | '\'' :: r => some (String.ofList body, r)
  | _ => none

def skipBlankLines : Nat → List Char → List Char
  | 0, s => s
  | fuel + 1, s =>
    let s := skipSpace s
    match newline? s with
    | some r => skipBlankLines fuel r
    | none => s

/-- Reads a string of several lines up to its closing quotes. One or two quotes belong to the
text; of a longer run the last three close it, and at most two before them belong to the text. -/
def readLines? (quote : Char) (escapes : Bool) : Nat → List Char → List Char →
    Option (String × List Char)
  | 0, _, _ => none
  | _, _, [] => none
  | fuel + 1, acc, c :: s =>
    if c = quote then
      let run := ((c :: s).takeWhile (· == quote)).length
      if run < 3 then
        readLines? quote escapes fuel (List.replicate run quote ++ acc) ((c :: s).drop run)
      else
        let kept := min (run - 3) 2
        some (String.ofList (List.replicate kept quote ++ acc).reverse, (c :: s).drop (kept + 3))
    else if escapes && c == '\\' then
      match newline? (skipSpace s) with
      | some r => readLines? quote escapes fuel acc (skipBlankLines (r.length + 1) r)
      | none =>
        match readEscape? s with
        | some (d, r) => readLines? quote escapes fuel (d :: acc) r
        | none => none
    else
      match newline? (c :: s) with
      | some r => readLines? quote escapes fuel ('\n' :: acc) r
      | none => if isPlain c then readLines? quote escapes fuel (c :: acc) s else none

/-- Removes an end of line directly behind the opening quotes. -/
def dropFirstNewline (s : List Char) : List Char := (newline? s).getD s

def readString? : List Char → Option (String × List Char)
  | '"' :: '"' :: '"' :: s => readLines? '"' true (s.length + 1) [] (dropFirstNewline s)
  | '\'' :: '\'' :: '\'' :: s => readLines? '\'' false (s.length + 1) [] (dropFirstNewline s)
  | '"' :: s => readBasic? (s.length + 1) [] s
  | '\'' :: s => readLiteral? s
  | _ => none

/-! ## Numbers -/

/-- Reads digits with single underscores between them, and leaves out the underscores. -/
def digitRun (isDigit : Char → Bool) : List Char → List Char × List Char
  | [] => ([], [])
  | c :: '_' :: d :: s =>
    if isDigit c then
      if isDigit d then
        let r := digitRun isDigit (d :: s)
        (c :: r.1, r.2)
      else ([c], '_' :: d :: s)
    else ([], c :: '_' :: d :: s)
  | c :: s =>
    if isDigit c then
      let r := digitRun isDigit s
      (c :: r.1, r.2)
    else ([], c :: s)

def readBased? (base : Nat) (s : List Char) : Option (Value × List Char) := do
  let (digits, rest) := digitRun (fun c => (Numeral.digit? base c).isSome) s
  let n ← Numeral.digits? base digits
  if n ≤ 0x7FFFFFFFFFFFFFFF then some (.integer n, rest) else none

/-- Reads an exponent: a letter, a sign that may be left out, and digits. -/
def readExponent? : List Char → Option (Int × List Char)
  | e :: s =>
    if e = 'e' ∨ e = 'E' then
      let (negative, s) := match s with
        | '-' :: r => (true, r)
        | '+' :: r => (false, r)
        | r => (false, r)
      match digitRun Char.isDigit s with
      | ([], _) => none
      | (digits, rest) =>
        let n := Int.ofNat (Decimal.runValue digits)
        some (if negative then -n else n, rest)
    else none
  | [] => none

/-- The float of a sign, digits and an exponent. A positive one is finite. -/
def finishFloat? (negative : Bool) (digits : List Char) (exponent : Int) (rest : List Char) :
    Option (Value × List Char) :=
  let x := Decimal.withSign negative (Decimal.nearest (Decimal.runValue digits) exponent)
  if x.toBits = 0x7FF0000000000000 then none else some (.float x.toBits, rest)

def readDecimal? (negative : Bool) (s : List Char) : Option (Value × List Char) :=
  match digitRun Char.isDigit s with
  | ([], _) => none
  | ('0' :: _ :: _, _) => none
  | (whole, '.' :: r) =>
    match digitRun Char.isDigit r with
    | ([], _) => none
    | (fraction, r) =>
      match readExponent? r with
      | some (e, r) => finishFloat? negative (whole ++ fraction) (e - fraction.length) r
      | none => finishFloat? negative (whole ++ fraction) (-fraction.length) r
  | (whole, r) =>
    match readExponent? r with
    | some (e, r) => finishFloat? negative whole e r
    | none =>
      let n := Decimal.runValue whole
      if negative then
        if n ≤ 0x8000000000000000 then some (.integer (-(n : Int)), r) else none
      else if n ≤ 0x7FFFFFFFFFFFFFFF then some (.integer n, r)
      else none

def readMagnitude? (negative : Bool) : List Char → Option (Value × List Char)
  | 'i' :: 'n' :: 'f' :: s =>
    some (.float (if negative then 0xFFF0000000000000 else 0x7FF0000000000000), s)
  | 'n' :: 'a' :: 'n' :: s => some (.float 0x7FF8000000000000, s)
  | s => readDecimal? negative s

def readNumber? : List Char → Option (Value × List Char)
  | '0' :: 'x' :: s => readBased? 16 s
  | '0' :: 'o' :: s => readBased? 8 s
  | '0' :: 'b' :: s => readBased? 2 s
  | '-' :: s => readMagnitude? true s
  | '+' :: s => readMagnitude? false s
  | s => readMagnitude? false s

end GuestSpec.Toml

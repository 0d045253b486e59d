import GuestSpec.Decimal.Reader
import GuestSpec.Json.Basic

/-!
# Reading documents

Reads the text of one JSON value. Values nest to a limited depth. Integers that do not fit 64 bits
and numbers with a fraction or an exponent are binary64 numbers, computed from the leading digits
that fit 64 bits by one multiplication or division with a power of ten.
-/

namespace GuestSpec.Json

def maxWord : Nat := 0xFFFFFFFFFFFFFFFF

/-- How many values may stand inside each other. -/
def depthLimit : Nat := 128

def skipSpace (s : List Char) : List Char :=
  s.dropWhile fun c => c == ' ' || c == '\n' || c == '\t' || c == '\r'

/-! ## Numbers -/

/-- Digits that have been read as part of a number: their value, while it fits 64 bits, and the
number of digits that were counted towards the exponent. -/
structure Significand where
  value : Nat
  full : Bool
  counted : Nat

/-- Adds a digit in front of the point. Once the value is full, digits only raise the exponent. -/
def Significand.pushWhole (s : Significand) (d : Nat) : Significand :=
  if s.full || maxWord < s.value * 10 + d then { s with full := true, counted := s.counted + 1 }
  else { s with value := s.value * 10 + d }

/-- Adds a digit behind the point. Once the value is full, digits are dropped. -/
def Significand.pushFraction (s : Significand) (d : Nat) : Significand :=
  if s.full || maxWord < s.value * 10 + d then { s with full := true }
  else { s with value := s.value * 10 + d, counted := s.counted + 1 }

/-- The value of a character that is known to be a digit. -/
def digitOf (c : Char) : Nat := c.toNat - '0'.toNat

/-- The power of ten nearest to `10 ^ n`, for `n` at most 308. -/
def powerOfTen (n : Nat) : Float := Float.ofScientific 1 false n

/-- Scales a magnitude by a power of ten, or fails when the result is too large. -/
def scale? : Nat → Float → Int → Option Float
  | 0, _, _ => some 0.0
  | fuel + 1, f, e =>
    if e.natAbs ≤ 308 then
      if 0 ≤ e then
        let g := f * powerOfTen e.natAbs
        if g.isInf then none else some g
      else some (f / powerOfTen e.natAbs)
    else if f == 0.0 then some f
    else if 0 ≤ e then none
    else scale? fuel (f / powerOfTen 308) (e + 308)

def float? (negative : Bool) (value : Nat) (e : Int) : Option Json :=
  (scale? 8 (Float.ofNat value) e).map fun f => .float (Decimal.withSign negative f).toBits

/-- Reads an exponent behind its letter and finishes the number. -/
def readExponent? (negative : Bool) (value : Nat) (e : Int) (s : List Char) :
    Option (Json × List Char) :=
  let (down, s) := match s with
    | '-' :: r => (true, r)
    | '+' :: r => (false, r)
    | r => (false, r)
  let (ds, rest) := Decimal.spanDigits s
  match ds with
  | [] => none
  | _ =>
    let n := Decimal.runValue ds
    if 0x7FFFFFFF < n then
      if value ≠ 0 ∧ !down then none
      else some (.float (Decimal.withSign negative 0.0).toBits, rest)
    else (float? negative value (if down then e - n else e + n)).map fun j => (j, rest)

/-- Reads what may follow the digits of a number that is not an integer. -/
def finishFloat? (negative : Bool) (value : Nat) (e : Int) (s : List Char) :
    Option (Json × List Char) :=
  match s with
  | 'e' :: r => readExponent? negative value e r
  | 'E' :: r => readExponent? negative value e r
  | r => (float? negative value e).map fun j => (j, r)

/-- The value of an integer numeral: an integer, or a float when it does not fit. -/
def integer? (negative : Bool) (value : Nat) : Option Json :=
  if negative then
    if value = 0 ∨ 0x8000000000000000 < value then
      some (.float (-(Float.ofNat value)).toBits)
    else some (.int (-(value : Int)))
  else some (.int value)

def readMagnitude? (negative : Bool) (s : List Char) : Option (Json × List Char) :=
  let (whole, rest) := Decimal.spanDigits s
  match whole with
  | [] => none
  | '0' :: _ :: _ => none
  | _ =>
    let sig : Significand :=
      whole.foldl (fun a c => Significand.pushWhole a (digitOf c)) ⟨0, false, 0⟩
    match rest with
    | '.' :: r =>
      let (fraction, r) := Decimal.spanDigits r
      if fraction.isEmpty then none
      else
        let behind : Significand :=
          fraction.foldl (fun a c => Significand.pushFraction a (digitOf c)) ⟨sig.value, false, 0⟩
        finishFloat? negative behind.value ((sig.counted : Int) - behind.counted) r
    | c :: r =>
      if sig.full || c == 'e' || c == 'E' then finishFloat? negative sig.value sig.counted (c :: r)
      else (integer? negative sig.value).map fun j => (j, c :: r)
    | [] =>
      if sig.full then finishFloat? negative sig.value sig.counted []
      else (integer? negative sig.value).map fun j => (j, [])

/-! ## Strings -/

def hex4? : List Char → Option (Nat × List Char)
  | a :: b :: c :: d :: r => (Numeral.digits? 16 [a, b, c, d]).map fun n => (n, r)
  | _ => none

def unescape? : Char → Option Char
  | '"' => some '"'
  | '\\' => some '\\'
  | '/' => some '/'
  | 'b' => some '\x08'
  | 'f' => some '\x0c'
  | 'n' => some '\n'
  | 'r' => some '\r'
  | 't' => some '\t'
  | _ => none

/-- Reads a character given by its code, as one unit of sixteen bits or as two. -/
def readUnits? (s : List Char) : Option (Char × List Char) := do
  let (n, r) ← hex4? s
  if 0xDC00 ≤ n ∧ n ≤ 0xDFFF then none
  else if 0xD800 ≤ n ∧ n ≤ 0xDBFF then
    match r with
    | '\\' :: 'u' :: r => do
      let (m, r) ← hex4? r
      if 0xDC00 ≤ m ∧ m ≤ 0xDFFF then
        some (Char.ofNat (0x10000 + (n - 0xD800) * 0x400 + (m - 0xDC00)), r)
      else none
    | _ => none
  else some (Char.ofNat n, r)

/-- Reads the inside of a string and its closing quote. -/
def readString? : Nat → List Char → List Char → Option (String × List Char)
  | 0, _, _ => none
  | _, _, [] => none
  | fuel + 1, acc, c :: s =>
    if c = '"' then some (String.ofList acc.reverse, s)
    else if c = '\\' then
      match s with
      | 'u' :: r =>
        match readUnits? r with
        | some (d, r) => readString? fuel (d :: acc) r
        | none => none
      | l :: r =>
        match unescape? l with
        | some d => readString? fuel (d :: acc) r
        | none => none
      | [] => none
    else if c.toNat < 0x20 then none
    else readString? fuel (c :: acc) s

/-! ## Values -/

mutual

/-- Reads a value; `depth` is how many values may still stand inside each other. -/
def readValue? (fuel depth : Nat) (s : List Char) : Option (Json × List Char) :=
  match fuel with
  | 0 => none
  | fuel + 1 =>
    match skipSpace s with
    | 'n' :: 'u' :: 'l' :: 'l' :: r => some (.null, r)
    | 't' :: 'r' :: 'u' :: 'e' :: r => some (.bool true, r)
    | 'f' :: 'a' :: 'l' :: 's' :: 'e' :: r => some (.bool false, r)
    | '"' :: r => (readString? (r.length + 1) [] r).map fun (t, r) => (.str t, r)
    | '-' :: r => readMagnitude? true r
    | '[' :: r =>
      if depth ≤ 1 then none
      else
        match skipSpace r with
        | ']' :: r => some (.arr [], r)
        | r => (readItems? fuel (depth - 1) r).map fun (items, r) => (.arr items, r)
    | '\x7b' :: r =>
      if depth ≤ 1 then none
      else
        match skipSpace r with
        | '\x7d' :: r => some (.obj [], r)
        | r => (readFields? fuel (depth - 1) r).map fun (fields, r) => (.obj fields, r)
    | r => readMagnitude? false r

def readItems? (fuel depth : Nat) (s : List Char) : Option (List Json × List Char) :=
  match fuel with
  | 0 => none
  | fuel + 1 =>
    match readValue? fuel depth s with
    | none => none
    | some (a, r) =>
      match skipSpace r with
      | ']' :: r => some ([a], r)
      | ',' :: r => (readItems? fuel depth r).map fun (as, r) => (a :: as, r)
      | _ => none

def readFields? (fuel depth : Nat) (s : List Char) : Option (List (String × Json) × List Char) :=
  match fuel with
  | 0 => none
  | fuel + 1 =>
    match skipSpace s with
    | '"' :: r =>
      match readString? (r.length + 1) [] r with
      | none => none
      | some (k, r) =>
        match skipSpace r with
        | ':' :: r =>
          match readValue? fuel depth r with
          | none => none
          | some (a, r) =>
            match skipSpace r with
            | '\x7d' :: r => some ([(k, a)], r)
            | ',' :: r => (readFields? fuel depth r).map fun (as, r) => ((k, a) :: as, r)
            | _ => none
        | _ => none
    | _ => none

end

/-- Reads a text that holds one value and nothing else but white space. -/
def parse? (s : String) : Option Json :=
  let cs := s.toList
  match readValue? (2 * cs.length + 2) depthLimit cs with
  | some (j, r) => if (skipSpace r).isEmpty then some j else none
  | none => none

end GuestSpec.Json

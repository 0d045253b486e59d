import GuestSpec.Text.Numeral
import GuestSpec.Toml.Table

/-!
# Dates and times of configuration files

Dates and times stand in a document as they are, or as text in a table of their own: a table below
the top whose first key is a reserved name stands for the date or time that this key holds.
-/

namespace GuestSpec.Toml

/-! ## In the text of a document -/

/-- Reads exactly `width` digits whose value lies between two bounds. -/
def readField? (width low high : Nat) (s : List Char) : Option (Nat × List Char) := do
  let digits := s.take width
  if digits.length ≠ width then none
  let n ← Numeral.digits? 10 digits
  if low ≤ n ∧ n ≤ high then some (n, s.drop width) else none

def skip? (c : Char) : List Char → Option (List Char)
  | [] => none
  | d :: s => if c = d then some s else none

def daysIn (year month : Nat) : Nat :=
  if month = 2 then
    if year % 4 = 0 ∧ (year % 100 ≠ 0 ∨ year % 400 = 0) then 29 else 28
  else if month = 4 ∨ month = 6 ∨ month = 9 ∨ month = 11 then 30
  else 31

def skipDate? (s : List Char) : Option (List Char) := do
  let (year, s) ← readField? 4 0 9999 s
  let (month, s) ← readField? 2 1 12 (← skip? '-' s)
  let (_, s) ← readField? 2 1 (daysIn year month) (← skip? '-' s)
  return s

def skipFraction : List Char → List Char
  | '.' :: c :: s => if c.isDigit then s.dropWhile Char.isDigit else '.' :: c :: s
  | s => s

/-- Skips a time of day in an hour up to the given one. -/
def skipTime? (lastHour : Nat) (s : List Char) : Option (List Char) := do
  let (_, s) ← readField? 2 0 lastHour s
  let (_, s) ← readField? 2 0 59 (← skip? ':' s)
  let (_, s) ← readField? 2 0 60 (← skip? ':' s)
  return skipFraction s

/-- Whether a character stands between a date and a time. -/
def isTimeMark (c : Char) : Bool := c == 'T' || c == 't' || c == ' '

def skipOffset? : List Char → Option (List Char)
  | [] => none
  | c :: s =>
    if c = 'Z' ∨ c = 'z' then some s
    else if c = '+' ∨ c = '-' then do
      let (_, s) ← readField? 2 0 23 s
      let (_, s) ← readField? 2 0 59 (← skip? ':' s)
      return s
    else none

/-- Skips a time with an offset behind a date, if they are there. -/
def skipTimeOfDate : List Char → List Char
  | [] => []
  | c :: s =>
    if isTimeMark c then
      match skipTime? 23 s with
      | some r => (skipOffset? r).getD r
      | none => c :: s
    else c :: s

/-- Skips a date with or without a time, or a time alone. -/
def skipMoment? (s : List Char) : Option (List Char) :=
  match skipDate? s with
  | some r => some (skipTimeOfDate r)
  | none => skipTime? 23 s

/-! ## In a table -/

/-- The name of the first key of a table that stands for a date or a time. -/
def momentKey : String := "$__toml_private_datetime"

/-- Skips an offset of at most one day. There may be none. -/
def skipDayOffset? : List Char → Option (List Char)
  | [] => some []
  | c :: s =>
    if c = 'Z' ∨ c = 'z' then some s
    else if c = '+' ∨ c = '-' then do
      let (hours, s) ← readField? 2 0 99 s
      let (minutes, s) ← readField? 2 0 99 (← skip? ':' s)
      if hours * 60 + minutes ≤ 24 * 60 then some s else none
    else none

/-- Skips a date or a time in a table. The last hour is 24. -/
def skipTableMoment? (s : List Char) : Option (List Char) :=
  if s[2]? = some ':' then skipTime? 24 s
  else match skipDate? s with
    | some (c :: r) =>
      if isTimeMark c then (skipTime? 24 r).bind skipDayOffset? else some (c :: r)
    | r => r

/-- Whether a text in a table is a date, a time or both. -/
def isMoment (s : String) : Bool := skipTableMoment? s.toList == some []

example : isMoment "1979-05-27t24:32:60.5-00:99" = true := by decide +kernel
example : isMoment "1979-02-29" = false := by decide +kernel
example : isMoment "07:32:00Z" = false := by decide +kernel

def momentOf? : Entries → Option Value
  | (key, v) :: _ => if key = momentKey then some v else none
  | [] => none

/-- The value that a table stands for, given its entries and what they stand for. -/
def settleTable? (origin : Origin) (es : Entries) (settled : Option Entries) : Option Value :=
  match momentOf? es with
  | none => settled.map (.table origin)
  | some (.string s) => if isMoment s then some .moment else none
  | some _ => none

mutual

/-- What a value stands for: tables of dates and times become dates and times. -/
def settle? : Value → Option Value
  | .array items => (settleItems? items).map .array
  | .table origin es => settleTable? origin es (settleEntries? es)
  | .tables items => (settleTables? items).map .array
  | v => some v

def settleItems? : List Value → Option (List Value)
  | [] => some []
  | v :: vs => do
    let v ← settle? v
    let vs ← settleItems? vs
    return v :: vs

def settleEntries? : List (String × Value) → Option (List (String × Value))
  | [] => some []
  | (key, v) :: es => do
    let v ← settle? v
    let es ← settleEntries? es
    return (key, v) :: es

def settleTables? : List (List (String × Value)) → Option (List Value)
  | [] => some []
  | es :: rest => do
    let v ← settleTable? .header es (settleEntries? es)
    let rest ← settleTables? rest
    return v :: rest

end

end GuestSpec.Toml

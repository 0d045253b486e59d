import GuestSpec.Version.Basic
import GuestSpec.Text.Quoted

/-!
# Intervals of versions

An interval is written `[4.1.0, )`, `(, 6.2.0)` or `[2.12.0, 8.0.0]`: brackets include their end,
parentheses do not, and an empty side is unbounded.
-/

namespace GuestSpec

namespace Version

/-- One end of an interval. -/
structure Bound where
  version : Version
  inclusive : Bool
  deriving DecidableEq

structure Interval where
  lower : Option Bound
  upper : Option Bound
  deriving DecidableEq

namespace Interval

def atLeast (major minor patch : UInt64) : Interval :=
  ⟨some ⟨release major minor patch, true⟩, none⟩

/-- Whether a version is not below the lower end. -/
def isAbove (v : Version) : Option Bound → Bool
  | none => true
  | some b => if b.inclusive then (compare v b.version).isGE else (compare v b.version).isGT

/-- Whether a version is not above the upper end. -/
def isBelow (v : Version) : Option Bound → Bool
  | none => true
  | some b => if b.inclusive then (compare v b.version).isLE else (compare v b.version).isLT

def contains (i : Interval) (v : Version) : Bool := isAbove v i.lower && isBelow v i.upper

/-- An unknown version lies in no interval. -/
def containsKnown (i : Interval) : Option Version → Bool
  | none => false
  | some v => i.contains v

def text (i : Interval) : String :=
  let lower := match i.lower with
    | none => "("
    | some b => (if b.inclusive then "[" else "(") ++ b.version.text
  let upper := match i.upper with
    | none => ")"
    | some b => b.version.text ++ (if b.inclusive then "]" else ")")
  lower ++ ", " ++ upper

def bound (inclusive : Bool) (raw : List Char) : Except ParseError (Option Bound) :=
  if (Text.Chars.trim raw).isEmpty then .ok none
  else do
    let v ← ofText (String.ofList raw)
    return some ⟨v, inclusive⟩

def opening? : Char → Option Bool
  | '[' => some true
  | '(' => some false
  | _ => none

def closing? : Char → Option Bool
  | ']' => some true
  | ')' => some false
  | _ => none

/-- The marks of an interval and the text between them. -/
def marks? (s : List Char) : Option (Bool × Bool × List Char) := do
  match s with
  | [] => none
  | c :: rest =>
    let lower ← opening? c
    let upper ← closing? (← rest.getLast?)
    return (lower, upper, rest.dropLast)

def ofText (raw : String) : Except ParseError Interval := do
  match marks? (Text.Chars.trim raw.toList) with
  | none => throw (.interval raw)
  | some (lower, upper, body) =>
    match Text.Chars.splitFirst? ',' body with
    | none => throw (.interval raw)
    | some (low, high) => return ⟨← bound lower low, ← bound upper high⟩

example : (ofText "[6.2, )").toOption.map text = some "[6.2.0, )" := by decide +kernel
example : (ofText "(, 6.2.0]").toOption.map text = some "(, 6.2.0]" := by decide +kernel
example : (ofText "4.1.0").toOption = none := by decide +kernel

end Interval

def ParseError.message : ParseError → String
  | .interval s => "malformed version interval " ++ Text.quoted s
  | .version s => "malformed version " ++ Text.quoted s

end Version

end GuestSpec

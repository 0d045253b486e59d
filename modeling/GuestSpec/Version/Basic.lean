import GuestSpec.Text.Basic
import GuestSpec.Text.Numeral
import GuestSpec.Json.Codec

/-!
# Versions

Semantic versions: three numbers, identifiers of a pre-release and identifiers of a build. The
order is total. It compares pre-releases by their rules of precedence and then the builds, so that
two versions are equal in the order only when they are equal.
-/

namespace GuestSpec

namespace Version

/-- Letters, digits and the hyphen, in ASCII. -/
def isIdentifierChar (c : Char) : Bool := c.isAlphanum || c == '-'

/-- A nonempty run of identifier characters. -/
def isIdentifier (s : String) : Bool := s != "" && s.toList.all isIdentifierChar

def isNumeric (s : String) : Bool := s.toList.all Char.isDigit

/-- Whether a run of digits starts with a zero that could be left out. -/
def hasLeadingZero (s : List Char) : Bool := decide (1 < s.length) && s.head? == some '0'

/-- An identifier that is not a number with a leading zero. -/
def isPreIdentifier (s : String) : Bool :=
  isIdentifier s && !(isNumeric s && hasLeadingZero s.toList)

end Version

structure Version where
  major : UInt64
  minor : UInt64
  patch : UInt64
  /-- The identifiers of the pre-release; a release has none. -/
  pre : List String
  build : List String
  pre_valid : pre.all Version.isPreIdentifier = true
  build_valid : build.all Version.isIdentifier = true
  deriving DecidableEq

namespace Version

def release (major minor patch : UInt64) : Version :=
  ⟨major, minor, patch, [], [], rfl, rfl⟩

instance : Inhabited Version := ⟨release 0 0 0⟩

def numericValue (s : String) : Nat := (Numeral.digits? 10 s.toList).getD 0

/-- Numbers come before other identifiers. Two numbers are compared by value, and then the one
with more leading zeros is greater; other identifiers are compared as text. -/
def compareIdentifiers (a b : String) : Ordering :=
  match isNumeric a, isNumeric b with
  | true, true =>
    (compare (numericValue a) (numericValue b)).then (compare a.length b.length)
  | true, false => .lt
  | false, true => .gt
  | false, false => compare a b

/-- Compares identifiers pairwise; when one list starts with the other, the longer is greater. -/
def compareLists : List String → List String → Ordering
  | [], [] => .eq
  | [], _ :: _ => .lt
  | _ :: _, [] => .gt
  | a :: as, b :: bs => (compareIdentifiers a b).then (compareLists as bs)

/-- A release comes after its pre-releases. -/
def comparePre : List String → List String → Ordering
  | [], [] => .eq
  | [], _ :: _ => .gt
  | _ :: _, [] => .lt
  | as, bs => compareLists as bs

instance : Ord Version where
  compare a b :=
    (compare a.major b.major).then <|
      (compare a.minor b.minor).then <|
        (compare a.patch b.patch).then <|
          (comparePre a.pre b.pre).then (compareLists a.build b.build)

/-- Joins identifiers behind a mark; no identifiers need no mark. -/
def marked (mark : String) : List String → String
  | [] => ""
  | ids => mark ++ String.intercalate "." ids

def number (n : UInt64) : String := String.ofList (Numeral.decimal n.toNat)

def text (v : Version) : String :=
  number v.major ++ "." ++ number v.minor ++ "." ++ number v.patch ++
    marked "-" v.pre ++ marked "+" v.build

/-- Reads a number without a leading zero. -/
def number? (s : List Char) : Option (UInt64 × List Char) := do
  let digits := s.takeWhile Char.isDigit
  if hasLeadingZero digits then none
  let n ← Numeral.unsigned? 10 0xFFFFFFFFFFFFFFFF digits
  return (UInt64.ofNat n, s.dropWhile Char.isDigit)

def dot? : List Char → Option (List Char)
  | '.' :: s => some s
  | _ => none

def identifiers (s : List Char) : List String × List Char :=
  let inside := fun c => isIdentifierChar c || c == '.'
  ((Text.Chars.splitWhere (· == '.') (s.takeWhile inside)).map String.ofList,
    s.dropWhile inside)

def marked? (mark : Char) : List Char → List String × List Char
  | [] => ([], [])
  | c :: s => if c = mark then identifiers s else ([], c :: s)

def parse? (s : String) : Option Version := do
  let (major, s) ← number? s.toList
  let (minor, s) ← number? (← dot? s)
  let (patch, s) ← number? (← dot? s)
  let (pre, s) := marked? '-' s
  let (build, s) := marked? '+' s
  if h : pre.all isPreIdentifier = true ∧ build.all isIdentifier = true then
    if s.isEmpty then some ⟨major, minor, patch, pre, build, h.1, h.2⟩ else none
  else none

instance : Codec Version where
  encode v := .str v.text
  read?
    | ⟨.str s, _⟩ => parse? s
    | _ => none

/-- Text that is not a version or not an interval of versions. -/
inductive ParseError where
  | interval (text : String)
  | version (text : String)
  deriving DecidableEq

/-- Reads a version that may leave out its last number or its last two, which are then zero. -/
def ofText (raw : String) : Except ParseError Version :=
  let raw := Text.trim raw
  let padded := match (Text.splitWhere (· == '.') raw).length with
    | 1 => raw ++ ".0.0"
    | 2 => raw ++ ".0"
    | _ => raw
  match parse? padded with
  | some v => .ok v
  | none => .error (.version raw)

example : (parse? "1.2.3-rc.1+a").map text = some "1.2.3-rc.1+a" := by decide +kernel
example : (ofText " 6.2 ").toOption = some (release 6 2 0) := by decide +kernel
example : parse? "1.02.3" = none := by decide +kernel

end Version

end GuestSpec

/-!
# Text

Cutting text into pieces: blanks at the ends, the first separator, all separators, lines and
words. Every operation is defined on lists of characters, and each has a version on `String`.
-/

namespace GuestSpec.Text

/-- Characters with the Unicode property `White_Space`. -/
def isBlank (c : Char) : Bool :=
  let n := c.toNat
  (9 ≤ n && n ≤ 13) || n == 0x20 || n == 0x85 || n == 0xA0 || n == 0x1680 ||
    (0x2000 ≤ n && n ≤ 0x200A) || n == 0x2028 || n == 0x2029 || n == 0x202F || n == 0x205F ||
    n == 0x3000

namespace Chars

def trimLeft (s : List Char) : List Char := s.dropWhile isBlank

def trimRight (s : List Char) : List Char := (s.reverse.dropWhile isBlank).reverse

def trim (s : List Char) : List Char := trimRight (trimLeft s)

/-- The text before and after the first `sep`. -/
def splitFirst? (sep : Char) : List Char → Option (List Char × List Char)
  | [] => none
  | c :: s =>
    if c = sep then some ([], s)
    else (splitFirst? sep s).map fun (a, b) => (c :: a, b)

/-- The text before and after the last `sep`. -/
def splitLast? (sep : Char) : List Char → Option (List Char × List Char)
  | [] => none
  | c :: s =>
    match splitLast? sep s with
    | some (a, b) => some (c :: a, b)
    | none => if c = sep then some ([], s) else none

/-- Cuts at every character that satisfies `p`; there is always one piece more than there are
cuts. -/
def splitWhere (p : Char → Bool) : List Char → List (List Char)
  | [] => [[]]
  | c :: s =>
    match splitWhere p s with
    | [] => [[c]]
    | w :: ws => if p c then [] :: w :: ws else (c :: w) :: ws

/-- The nonempty pieces between blanks. -/
def words (s : List Char) : List (List Char) :=
  (splitWhere isBlank s).filter fun w => !w.isEmpty

def dropReturn (s : List Char) : List Char :=
  match s.reverse with
  | '\r' :: r => r.reverse
  | _ => s

/-- The lines of a text. A line ends in a line feed, with or without a carriage return before it,
and text after the last line feed is a line unless it is empty. -/
def lines (s : List Char) : List (List Char) :=
  let pieces := splitWhere (· == '\n') s
  let ended := pieces.dropLast.map dropReturn
  match pieces.getLast? with
  | some (c :: r) => ended ++ [c :: r]
  | _ => ended

/-- What follows `p` when the text starts with `p`. -/
def afterLeading? : List Char → List Char → Option (List Char)
  | [], s => some s
  | _ :: _, [] => none
  | a :: p, b :: s => if a = b then afterLeading? p s else none

/-- What precedes `p` when the text ends with `p`. -/
def beforeTrailing? (p s : List Char) : Option (List Char) :=
  (afterLeading? p.reverse s.reverse).map List.reverse

/-- The text before and after the first occurrence of `p`. -/
def splitOnce? (p : List Char) : List Char → Option (List Char × List Char)
  | [] => if p.isEmpty then some ([], []) else none
  | c :: s =>
    match afterLeading? p (c :: s) with
    | some r => some ([], r)
    | none => (splitOnce? p s).map fun (a, b) => (c :: a, b)

end Chars

def trim (s : String) : String := String.ofList (Chars.trim s.toList)

def splitFirst? (sep : Char) (s : String) : Option (String × String) :=
  (Chars.splitFirst? sep s.toList).map fun (a, b) => (String.ofList a, String.ofList b)

def splitLast? (sep : Char) (s : String) : Option (String × String) :=
  (Chars.splitLast? sep s.toList).map fun (a, b) => (String.ofList a, String.ofList b)

def splitOnce? (p s : String) : Option (String × String) :=
  (Chars.splitOnce? p.toList s.toList).map fun (a, b) => (String.ofList a, String.ofList b)

def splitWhere (p : Char → Bool) (s : String) : List String :=
  (Chars.splitWhere p s.toList).map String.ofList

def words (s : String) : List String := (Chars.words s.toList).map String.ofList

def lines (s : String) : List String := (Chars.lines s.toList).map String.ofList

def afterLeading? (p s : String) : Option String :=
  (Chars.afterLeading? p.toList s.toList).map String.ofList

def beforeTrailing? (p s : String) : Option String :=
  (Chars.beforeTrailing? p.toList s.toList).map String.ofList

def occurs (p s : String) : Bool := (splitOnce? p s).isSome

/-- Maps the letters `A` to `Z` to lower case and leaves every other character alone. -/
def lowerAscii (s : String) : String :=
  String.ofList (s.toList.map Char.toLower)

example : lines "a\r\nb\n" = ["a", "b"] := by decide +kernel
example : words " a \t b" = ["a", "b"] := by decide +kernel

end GuestSpec.Text

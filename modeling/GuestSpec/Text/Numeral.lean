/-!
# Numerals

Reading bounded integers in a base and writing them. A numeral may carry a sign; it has at least
one digit, nothing around it, and a value within the bound of the type that it is read for.
-/

namespace GuestSpec.Numeral

/-- The value of a digit or letter as a digit of a base up to 36. -/
def digitValue? (c : Char) : Option Nat :=
  if '0' ≤ c ∧ c ≤ '9' then some (c.toNat - '0'.toNat)
  else if 'a' ≤ c ∧ c ≤ 'z' then some (c.toNat - 'a'.toNat + 10)
  else if 'A' ≤ c ∧ c ≤ 'Z' then some (c.toNat - 'A'.toNat + 10)
  else none

/-- The value of a character as a digit below `base`. -/
def digit? (base : Nat) (c : Char) : Option Nat :=
  match digitValue? c with
  | some d => if d < base then some d else none
  | none => none

/-- Adds the digits of `s` behind the value `acc`. -/
def accumulate? (base : Nat) : Nat → List Char → Option Nat
  | acc, [] => some acc
  | acc, c :: s =>
    match digit? base c with
    | some d => accumulate? base (acc * base + d) s
    | none => none

/-- The value of a nonempty run of digits. -/
def digits? (base : Nat) : List Char → Option Nat
  | [] => none
  | c :: s => accumulate? base 0 (c :: s)

/-- Reads an unsigned numeral, with or without a plus sign, of value at most `max`. -/
def unsigned? (base max : Nat) (s : List Char) : Option Nat := do
  let body := match s with
    | '+' :: r => r
    | r => r
  let n ← digits? base body
  if n ≤ max then some n else none

/-- Reads a signed numeral of value between `-max - 1` and `max`. -/
def signed? (max : Nat) (s : List Char) : Option Int :=
  match s with
  | '-' :: r => do
    let n ← digits? 10 r
    if n ≤ max + 1 then some (-(n : Int)) else none
  | r => (unsigned? 10 max r).map Int.ofNat

def uint8? (s : String) : Option UInt8 := (unsigned? 10 0xFF s.toList).map UInt8.ofNat

def uint16? (s : String) : Option UInt16 := (unsigned? 10 0xFFFF s.toList).map UInt16.ofNat

def uint32? (s : String) : Option UInt32 := (unsigned? 10 0xFFFFFFFF s.toList).map UInt32.ofNat

def uint64? (s : String) : Option UInt64 :=
  (unsigned? 10 0xFFFFFFFFFFFFFFFF s.toList).map UInt64.ofNat

def int32? (s : String) : Option Int32 := (signed? 0x7FFFFFFF s.toList).map Int32.ofInt

def digitChar (d : Nat) : Char :=
  if d < 10 then Char.ofNat (48 + d) else Char.ofNat (87 + d)

/-- The digits of `n` in a base of at least two, in front of `acc`. -/
def digitsOnto (base : Nat) : Nat → Nat → List Char → List Char
  | 0, _, acc => acc
  | fuel + 1, n, acc =>
    if n < base then digitChar n :: acc
    else digitsOnto base fuel (n / base) (digitChar (n % base) :: acc)

def decimal (n : Nat) : List Char := digitsOnto 10 (n + 1) n []

def hex (n : Nat) : List Char := digitsOnto 16 (n + 1) n []

/-- Puts zeros in front of the digits up to a least width. -/
def padZeros (width : Nat) (s : List Char) : List Char :=
  List.replicate (width - s.length) '0' ++ s

def hexByte (b : UInt8) : List Char := padZeros 2 (hex b.toNat)

example : unsigned? 10 255 ['+', '7'] = some 7 := by decide
example : unsigned? 10 255 ['2', '5', '6'] = none := by decide
example : hex 48879 = ['b', 'e', 'e', 'f'] := by decide

end GuestSpec.Numeral

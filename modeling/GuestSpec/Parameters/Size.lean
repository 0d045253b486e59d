import GuestSpec.Text.Basic
import GuestSpec.Text.Numeral

/-!
# Memory sizes

A size is a decimal number with a unit; without a unit it counts mebibytes. Only whole numbers of
mebibytes are sizes.
-/

namespace GuestSpec.Size

def maxWord : Nat := 0xFFFFFFFFFFFFFFFF

/-- The kibibytes in one unit. The unit is written in lower case. -/
def unit? : List Char → Option Nat
  | [] => some 1024
  | ['k'] | ['k', 'i', 'b'] => some 1
  | ['m'] | ['m', 'i', 'b'] => some 1024
  | ['g'] | ['g', 'i', 'b'] => some (1024 * 1024)
  | ['t'] | ['t', 'i', 'b'] => some (1024 * 1024 * 1024)
  | _ => none

def word? (n : Nat) : Option Nat := if n ≤ maxWord then some n else none

/-- The kibibytes of a number of units. The number has at most six digits behind its point, and
neither it nor its product with the unit, counted in its last digit, exceeds 64 bits. -/
def kibibytes? (factor : Nat) (number : List Char) : Option Nat :=
  match Text.Chars.splitFirst? '.' number with
  | none => do word? ((← Numeral.unsigned? 10 maxWord number) * factor)
  | some (whole, fraction) => do
    if fraction.isEmpty ∨ 6 < fraction.length then none
    let scale := Nat.pow 10 fraction.length
    let whole ← if whole.isEmpty then some 0 else Numeral.unsigned? 10 maxWord whole
    let fraction ← Numeral.unsigned? 10 maxWord fraction
    let scaled ← word? ((← word? ((← word? (whole * scale)) + fraction)) * factor)
    if scaled % scale ≠ 0 then none
    return scaled / scale

/-- Characters of the number in front of a unit. -/
def isNumberChar (c : Char) : Bool := c.isDigit || c == '.'

/-- Reads a size, in mebibytes. -/
def mebibytes? (raw : String) : Option UInt64 := do
  let raw := Text.Chars.trim raw.toList
  let number := raw.takeWhile isNumberChar
  if number.isEmpty then none
  let factor ← unit? ((Text.Chars.trim (raw.dropWhile isNumberChar)).map Char.toLower)
  let kib ← kibibytes? factor number
  if kib % 1024 ≠ 0 then none
  return UInt64.ofNat (kib / 1024)

example : mebibytes? "1.5G" = some 1536 := by decide +kernel
example : mebibytes? "1500K" = none := by decide +kernel
example : mebibytes? " 512 " = some 512 := by decide +kernel

end GuestSpec.Size

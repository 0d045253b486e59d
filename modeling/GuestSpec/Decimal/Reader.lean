import GuestSpec.Text.Numeral

/-!
# Reading decimals

Turns the text of a decimal number into the nearest binary64 number.
-/

namespace GuestSpec.Decimal

/-- The binary64 number nearest to `digits * 10 ^ exponent`. Exponents far outside the range of
binary64 are cut first, so that the powers of ten stay small. -/
def nearest (digits : Nat) (exponent : Int) : Float :=
  if digits = 0 then 0.0
  else
    let size := (Nat.toDigits 10 digits).length
    if 400 < exponent + size then Float.ofBits 0x7FF0000000000000
    else if exponent + size < -400 then 0.0
    else Float.ofScientific digits (exponent < 0) exponent.natAbs

def withSign (negative : Bool) (x : Float) : Float := if negative then -x else x

/-- The longest run of digits at the start, and the rest. -/
def spanDigits (s : List Char) : List Char × List Char :=
  (s.takeWhile Char.isDigit, s.dropWhile Char.isDigit)

/-- The value of a run of digits, zero for the empty run. -/
def runValue (s : List Char) : Nat := (Numeral.digits? 10 s).getD 0

/-- An exponent part at the end of the text: nothing, or `e` with a signed run of digits. -/
def exponent? : List Char → Option Int
  | [] => some 0
  | e :: s =>
    if e = 'e' ∨ e = 'E' then
      match s with
      | '-' :: r => (Numeral.digits? 10 r).map fun n => -(n : Int)
      | '+' :: r => (Numeral.digits? 10 r).map Int.ofNat
      | r => (Numeral.digits? 10 r).map Int.ofNat
    else none

/-- The magnitude written by digits with an optional point and an optional exponent. There is a
digit before or after the point. -/
def magnitude? (s : List Char) : Option Float :=
  let (whole, rest) := spanDigits s
  let (fraction, rest) := match rest with
    | '.' :: r => spanDigits r
    | r => ([], r)
  if whole.isEmpty && fraction.isEmpty then none
  else do
    let e ← exponent? rest
    some (nearest (runValue (whole ++ fraction)) (e - fraction.length))

/-- Reads a number: an optional sign, then a decimal, `inf`, `infinity` or `nan` in any case. -/
def float? (s : List Char) : Option Float :=
  let (negative, body) := match s with
    | '-' :: r => (true, r)
    | '+' :: r => (false, r)
    | r => (false, r)
  let word := body.map Char.toLower
  if word = ['i', 'n', 'f'] ∨ word = ['i', 'n', 'f', 'i', 'n', 'i', 't', 'y'] then
    some (withSign negative (Float.ofBits 0x7FF0000000000000))
  else if word = ['n', 'a', 'n'] then some (Float.ofBits 0x7FF8000000000000)
  else (magnitude? body).map (withSign negative)

end GuestSpec.Decimal

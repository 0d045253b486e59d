import GuestSpec.Decimal.Shortest
import GuestSpec.Text.Numeral

/-!
# How decimals are laid out

Two ways to write a binary64 number: `positional` never uses an exponent, and `scientific`, the
form of numbers in documents, keeps a fractional part and uses an exponent for very small and very
large magnitudes.
-/

namespace GuestSpec.Decimal

def isNegative (bits : UInt64) : Bool := bits >>> 63 == 1

/-- Whether the bits stand for an infinity or for no number. -/
def isSpecial (bits : UInt64) : Bool := (bits >>> 52) &&& 0x7FF == 0x7FF

def isNaN (bits : UInt64) : Bool := isSpecial bits && bits &&& 0xFFFFFFFFFFFFF != 0

/-- Whether the bits stand for zero, of either sign. -/
def isZero (bits : UInt64) : Bool := bits <<< 1 == 0

def signOf (bits : UInt64) : List Char := if isNegative bits then ['-'] else []

/-- Digits with the point in its place and no exponent; an integral number has no point. -/
def Digits.positional (d : Digits) : List Char :=
  let ds := Numeral.decimal d.digits
  let point := (ds.length : Int) + d.exponent
  if 0 ≤ d.exponent then ds ++ List.replicate d.exponent.toNat '0'
  else if 0 < point then ds.take point.toNat ++ '.' :: ds.drop point.toNat
  else ['0', '.'] ++ List.replicate (-point).toNat '0' ++ ds

/-- The shortest text of a number without an exponent. A tie goes up. -/
def positional (bits : UInt64) : List Char :=
  if isNaN bits then ['N', 'a', 'N']
  else if isSpecial bits then signOf bits ++ ['i', 'n', 'f']
  else if isZero bits then signOf bits ++ ['0']
  else signOf bits ++ ((Binary.ofBits bits).shortest .up).positional

/-- Digits in positional form when the first digit stands between `10 ^ -5` and `10 ^ 15`, and
otherwise with an exponent behind the first digit. The exponent has a sign. -/
def Digits.scientific (d : Digits) : List Char :=
  let ds := Numeral.decimal d.digits
  let point := (ds.length : Int) + d.exponent
  if 0 ≤ d.exponent ∧ point ≤ 16 then d.positional ++ ['.', '0']
  else if -5 < point ∧ point ≤ 16 then d.positional
  else
    let e := point - 1
    let mantissa := match ds with
      | a :: b :: r => a :: '.' :: b :: r
      | r => r
    mantissa ++ ['e', if e < 0 then '-' else '+'] ++ Numeral.decimal e.natAbs

/-- The shortest text of a finite number as documents write it. A tie goes to the even digit. -/
def scientific (bits : UInt64) : List Char :=
  if isZero bits then signOf bits ++ ['0', '.', '0']
  else signOf bits ++ ((Binary.ofBits bits).shortest .even).scientific

end GuestSpec.Decimal

/-!
# Shortest decimals

The decimal with the fewest digits that reads back to a given binary64 number. A decimal reads
back to `x` when it lies between the midpoints of `x` and its two neighbours; the midpoints count
exactly when the significand of `x` is even. Among decimals of the least length the one nearest to
`x` is taken, and an exact tie goes as the caller says.
-/

namespace GuestSpec.Decimal

/-- A positive binary64 number, `significand * 2 ^ exponent`. -/
structure Binary where
  significand : Nat
  exponent : Int
  /-- The neighbour below is half as far away as the neighbour above. -/
  narrow : Bool

/-- The magnitude of a finite number, from its bits. -/
def Binary.ofBits (bits : UInt64) : Binary :=
  let exponent := ((bits >>> 52) &&& 0x7FF).toNat
  let fraction := (bits &&& 0xFFFFFFFFFFFFF).toNat
  if exponent = 0 then ⟨fraction, -1074, false⟩
  else ⟨0x10000000000000 + fraction, (exponent : Int) - 1075, fraction == 0 && exponent > 1⟩

/-- The decimal `digits * 10 ^ exponent`. -/
structure Digits where
  digits : Nat
  exponent : Int

/-- Which of two equally near decimals is taken. -/
inductive Tie where
  | even
  | up

/-- A number on the decimal grid `10 ^ unit`, with the ends of its rounding interval, each as a
multiple of `unit` over the common denominator `den`. -/
structure Scaled where
  low : Nat
  value : Nat
  high : Nat
  den : Nat

def Binary.scale (x : Binary) (unit : Int) : Scaled :=
  let i := x.exponent - 2
  let num := Nat.pow 2 i.toNat * Nat.pow 10 (-unit).toNat
  { low := (4 * x.significand - if x.narrow then 1 else 2) * num
    value := 4 * x.significand * num
    high := (4 * x.significand + 2) * num
    den := Nat.pow 2 (-i).toNat * Nat.pow 10 unit.toNat }

/-- Whether `n` units lie in the rounding interval. -/
def Scaled.readsBack (s : Scaled) (even : Bool) (n : Nat) : Bool :=
  if even then s.low ≤ n * s.den && n * s.den ≤ s.high
  else s.low < n * s.den && n * s.den < s.high

/-- The grid point that reads back and is nearest, if one of the two neighbours reads back. -/
def Scaled.pick? (s : Scaled) (even : Bool) (tie : Tie) : Option Nat :=
  let below := s.value / s.den
  let above := below + 1
  match s.readsBack even below, s.readsBack even above with
  | false, false => none
  | true, false => some below
  | false, true => some above
  | true, true =>
    match compare (2 * s.value) ((2 * below + 1) * s.den), tie with
    | .lt, _ => some below
    | .gt, _ => some above
    | .eq, .up => some above
    | .eq, .even => if below % 2 = 0 then some below else some above

def digitCount (n : Nat) : Nat := (Nat.toDigits 10 n).length

/-- The least `k` with `x < 10 ^ k`, for a positive `x`. -/
def Binary.magnitude (x : Binary) : Int :=
  let s := x.scale (-400)
  (digitCount (s.value / s.den) : Int) - 400

/-- Moves trailing zeros of the digits into the exponent. -/
def Digits.strip : Nat → Digits → Digits
  | 0, d => d
  | fuel + 1, d =>
    if d.digits ≠ 0 ∧ d.digits % 10 = 0 then strip fuel ⟨d.digits / 10, d.exponent + 1⟩ else d

/-- The shortest decimal of a positive number. Seventeen digits always suffice. -/
def Binary.shortest (x : Binary) (tie : Tie) : Digits :=
  let k := x.magnitude
  let even := x.significand % 2 == 0
  let hit := (List.range 17).findSome? fun (i : Nat) =>
    let unit := k - ((i : Nat) + 1 : Int)
    ((x.scale unit).pick? even tie).map fun n => (⟨n, unit⟩ : Digits)
  match hit with
  | some d => d.strip 20
  | none =>
    let s := x.scale (k - 17)
    (⟨s.value / s.den, k - 17⟩ : Digits).strip 20

end GuestSpec.Decimal

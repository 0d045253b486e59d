/-!
# Documents

The value of a JSON text. Objects keep their fields in the order of the text, repeated names
included, and numbers are either integers of 64 bits or binary64 numbers given by their bits.
-/

namespace GuestSpec

inductive Json where
  | null
  | bool (b : Bool)
  /-- An integer that fits 64 bits, signed when negative and unsigned otherwise. -/
  | int (n : Int)
  /-- A finite binary64 number. -/
  | float (bits : UInt64)
  | str (s : String)
  | arr (items : List Json)
  | obj (fields : List (String × Json))
  deriving Inhabited

namespace Json

mutual

/-- Equality of values, decided along the tree. -/
def same : Json → Json → Bool
  | null, null => true
  | bool a, bool b => a == b
  | int a, int b => a == b
  | float a, float b => a == b
  | str a, str b => a == b
  | arr a, arr b => sameItems a b
  | obj a, obj b => sameFields a b
  | _, _ => false

def sameItems : List Json → List Json → Bool
  | [], [] => true
  | a :: as, b :: bs => same a b && sameItems as bs
  | _, _ => false

def sameFields : List (String × Json) → List (String × Json) → Bool
  | [], [] => true
  | (k, a) :: as, (l, b) :: bs => k == l && same a b && sameFields as bs
  | _, _ => false

end

end Json

end GuestSpec

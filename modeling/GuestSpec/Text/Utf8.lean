/-!
# Bytes as text

Reads bytes as UTF-8. Every longest run of bytes that starts a character but does not end one is
read as one replacement character, and so is every byte that starts none.
-/

namespace GuestSpec.Text.Utf8

def replacement : Char := '\uFFFD'

/-- The start of a character: how many bytes it lacks, its value so far, and the range that the
next byte lies in. -/
structure Pending where
  missing : Nat
  value : Nat
  low : UInt8
  high : UInt8
  deriving DecidableEq

def first (b : UInt8) : List Char × Option Pending :=
  let n := b.toNat
  if n < 0x80 then ([Char.ofNat n], none)
  else if n < 0xC2 then ([replacement], none)
  else if n < 0xE0 then ([], some ⟨1, n - 0xC0, 0x80, 0xBF⟩)
  else if n < 0xF0 then
    ([], some ⟨2, n - 0xE0, if n = 0xE0 then 0xA0 else 0x80, if n = 0xED then 0x9F else 0xBF⟩)
  else if n < 0xF5 then
    ([], some ⟨3, n - 0xF0, if n = 0xF0 then 0x90 else 0x80, if n = 0xF4 then 0x8F else 0xBF⟩)
  else ([replacement], none)

def step (s : Option Pending) (b : UInt8) : List Char × Option Pending :=
  match s with
  | none => first b
  | some p =>
    if p.low ≤ b ∧ b ≤ p.high then
      let value := p.value * 64 + (b.toNat - 0x80)
      if p.missing ≤ 1 then ([Char.ofNat value], none)
      else ([], some ⟨p.missing - 1, value, 0x80, 0xBF⟩)
    else ((replacement :: (first b).1), (first b).2)

/-- Reads bytes after the start of a character. -/
def decodeFrom : Option Pending → List UInt8 → List Char
  | none, [] => []
  | some _, [] => [replacement]
  | s, b :: bs => (step s b).1 ++ decodeFrom (step s b).2 bs

def decode (bytes : List UInt8) : String := String.ofList (decodeFrom none bytes)

def encode (s : String) : List UInt8 := s.toUTF8.toList

example : decode [0x37, 0xFF, 0x2E] = "7\uFFFD." := by decide +kernel
example : decode [0xE2, 0x82, 0xAC] = "€" := by decide +kernel
example : decode [0xF0, 0x9F, 0x41] = "\uFFFDA" := by decide +kernel

end GuestSpec.Text.Utf8

import GuestSpec.Text.Numeral
import GuestSpec.Json.Codec

/-!
# UUIDs

A UUID is a number of 128 bits. It is written as 32 hexadecimal digits in groups of 8, 4, 4, 4 and
12, and read in that form, without the hyphens, in braces, or as a URN.
-/

namespace GuestSpec

structure Uuid where
  bits : BitVec 128
  deriving DecidableEq, Inhabited

namespace Uuid

/-- The identifier with the given bytes, the most significant first. -/
def ofBytes (bytes : List UInt8) : Uuid :=
  ⟨bytes.foldl (fun acc b => acc <<< 8 ||| BitVec.ofNat 128 b.toNat) 0⟩

def text (u : Uuid) : String :=
  let digits := Numeral.padZeros 32 (Numeral.hex u.bits.toNat)
  let group := fun (start width : Nat) => (digits.drop start).take width
  String.ofList <| List.intercalate ['-']
    [group 0 8, group 8 4, group 12 4, group 16 4, group 20 12]

/-- Reads 32 hexadecimal digits. -/
def ofDigits? (s : List Char) : Option Uuid := do
  if s.length ≠ 32 then none
  return ⟨BitVec.ofNat 128 (← Numeral.digits? 16 s)⟩

/-- Removes the four hyphens between the groups. -/
def joinGroups? (s : List Char) : Option (List Char) :=
  if s.length = 36 ∧ [8, 13, 18, 23].all fun i => s[i]? == some '-' then
    some (s.take 8 ++ (s.drop 9).take 4 ++ (s.drop 14).take 4 ++ (s.drop 19).take 4 ++ s.drop 24)
  else none

/-- What a URN starts with, in letters of either case. -/
def urnMark : List Char := "urn:uuid:".toList

def ofText? (s : String) : Option Uuid :=
  let cs := s.toList
  if (cs.take urnMark.length).map Char.toLower = urnMark then
    (joinGroups? (cs.drop urnMark.length)).bind ofDigits?
  else match cs with
    | '\x7b' :: rest =>
      if rest.getLast? = some '\x7d' then (joinGroups? rest.dropLast).bind ofDigits? else none
    | _ =>
      match joinGroups? cs with
      | some digits => ofDigits? digits
      | none => ofDigits? cs

instance : Codec Uuid where
  encode u := .str u.text
  read?
    | ⟨.str s, _⟩ => ofText? s
    | _ => none

example : text ⟨1⟩ = "00000000-0000-0000-0000-000000000001" := by decide +kernel
example : ofText? "Urn:UUID:00000000-0000-0000-0000-000000000001" = some ⟨1⟩ := by decide +kernel
example : ofText? "urn:uuid:00000000000000000000000000000001" = none := by decide +kernel

end Uuid

end GuestSpec

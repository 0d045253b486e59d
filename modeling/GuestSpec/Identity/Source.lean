import GuestSpec.Identity.ChaCha
import GuestSpec.Text.Numeral
import GuestSpec.Uuid

/-!
# Sources of identifiers

Where the identifiers come from that parameters leave open: the UUID of a guest and the addresses
of its network cards. A compilation takes any source that can be asked for them.
-/

namespace GuestSpec

/-- What a compilation asks a source of identifiers. -/
class Identifiers (I : Type) where
  uuid : StateM I Uuid
  /-- The hardware address of a network card with a name. -/
  mac (nic : String) : StateM I String

/-- A source that counts or draws its identifiers. -/
inductive IdSource where
  /-- Identifiers are counted: those handed out so far. -/
  | sequential (uuids : BitVec 128) (macs : UInt32)
  /-- Identifiers are drawn from a stream, from a position on. -/
  | seeded (key : ChaCha.Key) (position : Nat)

namespace IdSource

def counting : IdSource := .sequential 0 0

def ofSeed (seed : UInt64) : IdSource := .seeded (ChaCha.keyOfSeed seed) 0

instance : Inhabited IdSource := ⟨counting⟩

/-- Random bytes: the low bytes of successive words. -/
def bytes (key : ChaCha.Key) (position count : Nat) : List UInt8 :=
  (List.range count).map fun i => (ChaCha.word key (position + i)).toUInt8

/-- Marks sixteen random bytes as a random UUID. -/
def markRandom (bytes : List UInt8) : List UInt8 :=
  bytes.mapIdx fun i b =>
    if i = 6 then b &&& 0x0f ||| 0x40
    else if i = 8 then b &&& 0x3f ||| 0x80
    else b

/-- The text of a hardware address. The first byte marks it as administered locally. -/
def macText (tail : List UInt8) : String :=
  String.ofList (List.intercalate [':'] ((0x9a :: tail).map Numeral.hexByte))

/-- A UUID for a guest. Counting starts again after the last UUID, where a checked addition
would stop. -/
def uuid : IdSource → Uuid × IdSource
  | sequential uuids macs => (⟨uuids + 1⟩, sequential (uuids + 1) macs)
  | seeded key position =>
    (.ofBytes (markRandom (bytes key position 16)), seeded key (position + 16))

/-- A hardware address for a network card. Counting starts again after 2 ^ 32 addresses, where a
checked addition would stop; the text shows the lower three bytes of the count. -/
def mac : IdSource → String × IdSource
  | sequential uuids macs =>
    let n := macs + 1
    (macText [0, 0, (n >>> 16).toUInt8, (n >>> 8).toUInt8, n.toUInt8], sequential uuids n)
  | seeded key position => (macText (bytes key position 5), seeded key (position + 5))

/-- Neither way to make an address looks at the name of the card. -/
instance : Identifiers IdSource where
  uuid := uuid
  mac _ := mac

example : (counting.mac).1 = "9a:00:00:00:00:01" := by decide +kernel

end IdSource

end GuestSpec

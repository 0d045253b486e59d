import GuestSpec.Document.Address
import GuestSpec.Search

/-!
# Occupancy of a bus

The address space of a bus, and which of its coordinates are taken. Coordinates are given out in a
fixed order, so the first free one is determined.
-/

namespace GuestSpec

/-- Coordinates in the order in which they are given out. -/
structure Space where
  size : Nat
  coordinate : Nat → Coordinate

def Space.first? (s : Space) (p : Coordinate → Bool) : Option Coordinate :=
  firstFrom? (fun i => if p (s.coordinate i) then some (s.coordinate i) else none) 0 s.size

/-- The form of the coordinates of a bus, and how many there are. -/
inductive Shape where
  | pci (slots : Fin 33)
  | ccw
  | mmio (transports : UInt8)
  | units (count : UInt8)
  /-- Ports are counted from one. -/
  | ports (count : UInt8)
  | scsi (targets luns : UInt16)
  deriving DecidableEq, Inhabited

namespace Shape

/-- A PCI bus with all its slots. -/
def pciBus : Shape := .pci 32

/-- The number of coordinates that a bus publishes. -/
def capacity : Shape → UInt32
  | pci slots => UInt32.ofNat slots
  | ccw => 0xFFFF
  | mmio transports => transports.toUInt32
  | units count => count.toUInt32
  | ports count => count.toUInt32
  | scsi targets luns => UInt32.ofNat (targets.toNat * luns.toNat)

def contains : Shape → Coordinate → Bool
  | pci slots, .pci addr => addr.slot.val < slots.val
  | ccw, .ccw devno => devno ≤ 0xFFFE
  | mmio transports, .mmio transport => transport < transports
  | units count, .unit n => n < count
  | ports count, .port n => 1 ≤ n && n ≤ count
  | scsi targets luns, .scsi target lun => target < targets && lun < luns
  | _, _ => false

/-- The coordinates of a bus. Function 0 stands for a PCI slot; SCSI targets vary faster than
units. -/
def space : Shape → Space
  | pci slots => ⟨slots, fun i => .pci ⟨Fin.ofNat 32 i, 0⟩⟩
  | ccw => ⟨0xFFFF, fun i => .ccw (UInt16.ofNat i)⟩
  | mmio transports => ⟨transports.toNat, fun i => .mmio (UInt8.ofNat i)⟩
  | units count => ⟨count.toNat, fun i => .unit (UInt8.ofNat i)⟩
  | ports count => ⟨count.toNat, fun i => .port (UInt8.ofNat (i + 1))⟩
  | scsi targets luns =>
    ⟨targets.toNat * luns.toNat, fun i =>
      .scsi (UInt16.ofNat (i % targets.toNat)) (UInt16.ofNat (i / targets.toNat))⟩

/-- The numbers below `count`, or only the given one of them. -/
def range (count : UInt16) : Option UInt16 → Nat × (Nat → UInt16)
  | none => (count.toNat, UInt16.ofNat)
  | some n => (if n < count then 1 else 0, fun _ => n)

def scsiSpace (target lun : Option UInt16) : Shape → Space
  | scsi targets luns =>
    let (targetCount, targetAt) := range targets target
    let (lunCount, lunAt) := range luns lun
    ⟨targetCount * lunCount, fun i => .scsi (targetAt (i % targetCount)) (lunAt (i / targetCount))⟩
  | _ => ⟨0, fun _ => default⟩

end Shape

/-- A coordinate that is taken, and who has it. -/
structure Claim where
  coordinate : Coordinate
  owner : String
  deriving DecidableEq, Inhabited

/-- A bus and what is taken on it. -/
structure BusNode where
  bus : Bus
  shape : Shape
  /-- What the machine itself or the bridge itself occupies. -/
  reserved : List Claim
  /-- What was given out, in that order. -/
  claims : List Claim
  deriving DecidableEq, Inhabited

namespace BusNode

def ofShape (id : BusId) (kind : BusKind) (shape : Shape) (controller : Option String)
    (reserved : List Claim) : BusNode :=
  ⟨⟨id, kind, shape.capacity, controller⟩, shape, reserved, []⟩

def taken (n : BusNode) : List Claim := n.reserved ++ n.claims

/-- Who has exactly this coordinate. -/
def owner? (n : BusNode) (c : Coordinate) : Option String :=
  (n.taken.find? (·.coordinate == c)).map Claim.owner

/-- Who stands in the way of a claim. A device at function 0 of a PCI slot has the whole slot. -/
def holder? (n : BusNode) (c : Coordinate) : Option String :=
  match n.owner? c with
  | some owner => some owner
  | none =>
    match c with
    | .pci addr => if addr.function = 0 then none else n.owner? (.pci ⟨addr.slot, 0⟩)
    | _ => none

def inSlot (slot : Fin 32) : Coordinate → Bool
  | .pci addr => addr.slot == slot
  | _ => false

/-- Whether some function of a PCI slot is taken. -/
def slotTaken (n : BusNode) (slot : Fin 32) : Bool := n.taken.any fun c => inSlot slot c.coordinate

/-- Whether a coordinate may be given out. A PCI slot is given out as a whole. -/
def isFree (n : BusNode) : Coordinate → Bool
  | .pci addr => !n.slotTaken addr.slot
  | c => (n.owner? c).isNone

/-- The PCI slots of which no function is taken. -/
def freeSlots (n : BusNode) : List (Fin 32) :=
  match n.shape with
  | .pci slots =>
    (List.finRange 32).filter fun slot => decide (slot.val < slots.val) && !n.slotTaken slot
  | _ => []

def firstFree? (n : BusNode) : Option Coordinate := n.shape.space.first? n.isFree

def firstFreeScsi? (n : BusNode) (target lun : Option UInt16) : Option Coordinate :=
  (n.shape.scsiSpace target lun).first? n.isFree

def claim (n : BusNode) (c : Coordinate) (owner : String) : BusNode :=
  { n with claims := n.claims ++ [⟨c, owner⟩] }

end BusNode

end GuestSpec

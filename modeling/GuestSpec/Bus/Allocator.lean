import GuestSpec.Bus.Node
import GuestSpec.Bus.Request

/-!
# The allocator

Holds every bus of a guest with what is taken on it, and the controllers that were inserted to
provide buses. An operation that fails keeps what it had done before.
-/

namespace GuestSpec

structure AllocatorConfig where
  /-- Whether there are PCIe root ports. -/
  rootPorts : Bool
  /-- Whether there is a PCIe-to-PCI bridge. -/
  pciePciBridge : Bool
  scsiMaxTargets : Option UInt16
  scsiMaxLuns : Option UInt16
  deriving DecidableEq, Inhabited

def MachineFamily.rootBus : MachineFamily → BusId
  | i440fx | pseries => "pci.0"
  | q35 | armVirt false => "pcie.0"
  | s390Ccw => "virtual-css"
  | armVirt true | microvm => "virtio-mmio-bus"

/-- The buses of a guest. -/
structure BusAllocator where
  family : MachineFamily
  /-- The machine type, as messages name it. -/
  machine : String
  config : AllocatorConfig
  /-- All buses in the order in which they came to be. -/
  buses : List BusNode
  /-- The inserted controllers in order. -/
  controllers : List Controller
  /-- The flat PCI buses: the root bus, and each bridge behind the one before it. -/
  pciChain : List BusId
  /-- How many root ports were inserted. -/
  rootPorts : Nat
  /-- The bus of the PCIe-to-PCI bridge. -/
  pciePciBridge : Option BusId
  /-- The buses of SCSI adapters. -/
  hbas : List (HbaFamily × BusId)
  ideBuses : List BusId
  ahciBuses : List BusId
  /-- The USB buses, each with the model of its controller. -/
  usb : List (String × BusId)
  floppyBus : Option BusId
  virtioSerialBus : Option BusId
  /-- The indices given out in the boot order. -/
  bootIndices : List (UInt32 × String)
  deriving DecidableEq, Inhabited

/-- Operations on the buses. A failure keeps what was done before it. -/
abbrev Alloc := ExceptT CompileError (StateM BusAllocator)

namespace BusAllocator

/-- The bus on which serial ports sit. -/
def isaBus : BusId := "isa.0"

def numbered (base : String) (n : Nat) : String := base ++ toString n

/-- A PCI slot that is taken from the start. -/
def slotZeroOf (owner : String) : Claim := ⟨.pci ⟨0, 0⟩, owner⟩

def builtIn (id : BusId) (kind : BusKind) (shape : Shape) (reserved : List Claim) : BusNode :=
  .ofShape id kind shape none reserved

/-- The bus for serial ports of machines with an ISA bus. -/
def isaNode : BusNode := builtIn isaBus .isaSerial (.units 4) []

def builtInIde (family : MachineFamily) : List BusId :=
  match family with
  | .i440fx => (List.range 2).map (numbered "ide.")
  | .q35 => (List.range 6).map (numbered "ide.")
  | _ => []

def builtInFloppy (family : MachineFamily) : Option BusId :=
  match family with
  | .i440fx => some "floppy-bus.0"
  | _ => none

def builtInBuses (family : MachineFamily) : List BusNode :=
  let root := family.rootBus
  match family with
  | .i440fx =>
    [builtIn root .pciRoot .pciBus [slotZeroOf "i440fx-host", ⟨.pci ⟨1, 0⟩, "piix3"⟩]] ++
      (builtInIde family).map (fun id => builtIn id .ide (.units 2) []) ++
      (builtInFloppy family).toList.map (fun id => builtIn id .floppy (.units 2) []) ++ [isaNode]
  | .q35 =>
    [builtIn root .pcieRoot .pciBus [slotZeroOf "q35-host", ⟨.pci ⟨0x1f, 0⟩, "ich9-lpc"⟩]] ++
      (builtInIde family).map (fun id => builtIn id .ide (.units 1) []) ++ [isaNode]
  | .armVirt false => [builtIn root .pcieRoot .pciBus [slotZeroOf "gpex-pcihost"]]
  | .pseries => [builtIn root .pciRoot .pciBus [slotZeroOf "spapr-pci-host-bridge"]]
  | .s390Ccw => [builtIn root .ccw .ccw []]
  | .armVirt true => [builtIn root .virtioMmio (.mmio 32) []]
  | .microvm => [builtIn root .virtioMmio (.mmio 24) [], isaNode]

def start (family : MachineFamily) (machine : String) (config : AllocatorConfig) :
    BusAllocator where
  family := family
  machine := machine
  config := config
  buses := builtInBuses family
  controllers := []
  pciChain := match family with
    | .i440fx | .pseries => [family.rootBus]
    | _ => []
  rootPorts := 0
  pciePciBridge := none
  hbas := []
  ideBuses := builtInIde family
  ahciBuses := match family with
    | .q35 => builtInIde family
    | _ => []
  usb := []
  floppyBus := builtInFloppy family
  virtioSerialBus := none
  bootIndices := []

/-- The first bus with an id. -/
def node? (a : BusAllocator) (bus : BusId) : Option BusNode := a.buses.find? (·.bus.id == bus)

/-- Changes the first bus with an id. -/
def updateFirst (bus : BusId) (f : BusNode → BusNode) : List BusNode → List BusNode
  | [] => []
  | n :: rest => if n.bus.id == bus then f n :: rest else n :: updateFirst bus f rest

def addClaim (a : BusAllocator) (bus : BusId) (c : Coordinate) (owner : String) : BusAllocator :=
  { a with buses := updateFirst bus (·.claim c owner) a.buses }

/-- The buses of the SCSI adapters of a family. -/
def hbaBuses (a : BusAllocator) (family : HbaFamily) : List BusId :=
  (a.hbas.filter (·.1 == family)).map (·.2)

/-- The model of the SCSI adapters of a family on this machine. -/
def hbaDriver (a : BusAllocator) : HbaFamily → String
  | .virtioScsi => a.family.virtioTransport.driver "virtio-scsi"
  | .lsi => "lsi53c895a"

/-- The published buses and the inserted controllers, in the order in which they came to be. -/
def parts (a : BusAllocator) : List Bus × List Controller :=
  (a.buses.map BusNode.bus, a.controllers)

end BusAllocator

namespace Alloc

def unknownBus (device bus : String) : CompileError := .collision (.unknownBus device bus)

def exhausted (bus : String) : CompileError := .limit (.busExhausted bus)

/-- Fails because the machine cannot carry something. -/
def unsupported {α : Type} (what : String) : Alloc α := do
  throw (.notOn (← get).machine what)

def claim (owner : String) (bus : BusId) (c : Coordinate) : Alloc Placement := do
  match (← get).node? bus with
  | none => throw (unknownBus owner bus)
  | some n =>
    if n.shape.contains c then
      match n.holder? c with
      | some holder => throw (.collision (.inUse owner ⟨bus, c⟩ holder))
      | none =>
        modify (·.addClaim bus c owner)
        return ⟨bus, c⟩
    else throw (.collision (.outOfRange owner bus c))

/-- Gives out a unit of an IDE or floppy bus by its number. -/
def claimUnit (owner : String) (bus : BusId) (n : UInt16) : Alloc Placement :=
  if n.toNat < 256 then claim owner bus (.unit n.toUInt8)
  else throw (.collision (.unitOutOfRange owner bus n))

/-- Gives out the first free coordinate of a bus. -/
def claimNext (owner : String) (bus : BusId) : Alloc Placement := do
  match (← get).node? bus with
  | none => throw (unknownBus owner bus)
  | some n =>
    match n.firstFree? with
    | none => throw (exhausted bus)
    | some c => claim owner bus c

/-- A bus that a controller is going to provide. -/
structure NewBus where
  id : BusId
  kind : BusKind
  shape : Shape
  reserved : List Claim

def addController (id driver : String) (placement : Option Placement) (kind : ControllerKind)
    (buses : List NewBus) : Alloc Unit :=
  modify fun a =>
    { a with
      buses := a.buses ++ buses.map fun b => .ofShape b.id b.kind b.shape (some id) b.reserved
      controllers := a.controllers ++ [⟨id, driver, placement, kind, buses.map NewBus.id⟩] }

/-- Gives an owner an index in the boot order. A device that accepts any index gets 0xFFFFFFFF when
all lower ones are used, where a checked search would stop with an overflow. -/
def claimBootIndex (owner : String) (request : BootRequest) : Alloc (Option UInt32) := do
  let used := (← get).bootIndices
  match request with
  | .none => return none
  | .next =>
    let isFree := fun i => !used.any (·.1 == UInt32.ofNat i)
    let index := firstFrom? (fun i => if isFree i then some (UInt32.ofNat i) else none) 0
      (used.length + 1)
    let index := index.getD 0xFFFFFFFF
    modify fun a => { a with bootIndices := (index, owner) :: used }
    return some index
  | .explicit index =>
    match used.lookup index with
    | some holder => throw (.collision (.bootIndexInUse owner index holder))
    | none =>
      modify fun a => { a with bootIndices := (index, owner) :: used }
      return some index

end Alloc

end GuestSpec

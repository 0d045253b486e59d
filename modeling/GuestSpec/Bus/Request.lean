import GuestSpec.Document.Device
import GuestSpec.Error

/-!
# Requests for a place

What a device says about the place it wants: the kind of bus, explicit coordinates, and a place in
the boot order.
-/

namespace GuestSpec

/-- How a PCI device is attached to a PCI Express hierarchy. -/
inductive PciKind where
  /-- An express endpoint behind a root port of its own. -/
  | express
  /-- A conventional device behind a bridge. -/
  | conventional
  /-- A device in the root complex. -/
  | integrated
  deriving DecidableEq, Inhabited

inductive BusRequest where
  /-- No bus. -/
  | none
  | pci (kind : PciKind)
  /-- Whatever carries virtio devices on the machine. -/
  | virtio
  | scsi (family : HbaFamily)
  | ide
  | ahci
  /-- A USB controller, of a model whose name contains the given text. -/
  | usb (controller : Option String)
  | floppy
  | isaSerial
  | virtioSerial
  deriving DecidableEq, Inhabited

structure PlacementHint where
  pciBus : Option String
  pciAddr : Option PciAddress
  /-- The index of the SCSI adapter or of the IDE bus. -/
  driveBus : Option UInt32
  /-- The SCSI target, or the unit of an IDE or floppy bus. -/
  driveUnit : Option UInt16
  /-- The unit of a SCSI target. -/
  drivePort : Option UInt16
  usbBus : Option String
  usbPort : Option UInt8
  deriving DecidableEq

namespace PlacementHint

def empty : PlacementHint := ⟨.none, .none, .none, .none, .none, .none, .none⟩

instance : Inhabited PlacementHint := ⟨empty⟩

def pciAddr? (p : Parameters) : Except Parameters.Error (Option PciAddress) :=
  match p.get? "pci_addr" with
  | .none => .ok .none
  | some raw =>
    match PciAddress.ofText raw with
    | .ok addr => .ok (some addr)
    | .error _ => .error (.invalid "pci_addr" raw "a PCI slot[.function]")

def ofParameters (p : Parameters) : Except Parameters.Error PlacementHint := do
  let pciAddr ← pciAddr? p
  let driveBus ← p.uint32? "drive_bus"
  let driveUnit ← p.uint16? "drive_unit"
  let drivePort ← p.uint16? "drive_port"
  let usbPort ← p.uint8? "usb_port"
  return ⟨p.get? "pci_bus", pciAddr, driveBus, driveUnit, drivePort, p.get? "usb_bus", usbPort⟩

end PlacementHint

/-- How a device asks for a place in the boot order. -/
inductive BootRequest where
  | none
  /-- The lowest index that is free. -/
  | next
  | explicit (index : UInt32)
  deriving DecidableEq, Inhabited

def BootRequest.ofParameters (p : Parameters) : Except Parameters.Error BootRequest := do
  match ← p.uint32? "bootindex" with
  | some index => return .explicit index
  | .none => return if ← p.boolD "image_boot" false then .next else .none

structure DeviceRequest where
  bus : BusRequest
  hint : PlacementHint
  boot : BootRequest
  deriving DecidableEq, Inhabited

def DeviceRequest.ofBus (bus : BusRequest) : DeviceRequest := ⟨bus, .empty, .none⟩

def DeviceRequest.ofParameters (bus : BusRequest) (p : Parameters) :
    Except Parameters.Error DeviceRequest := do
  let hint ← PlacementHint.ofParameters p
  let boot ← BootRequest.ofParameters p
  return ⟨bus, hint, boot⟩

end GuestSpec

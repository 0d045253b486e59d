import GuestSpec.Json.Codec
import GuestSpec.Text.Basic
import GuestSpec.Text.Numeral
import GuestSpec.Text.Quoted

/-!
# Buses and positions on them

PCI addresses, the kinds of buses, and the coordinates that devices occupy.
-/

namespace GuestSpec

open Json

-- Numerals for functions, slots and counts of slots
instance functions_neZero : @NeZero Nat .ofOfNat0 8 := ⟨by decide⟩

instance slots_neZero : @NeZero Nat .ofOfNat0 32 := ⟨by decide⟩

instance slotCounts_neZero : @NeZero Nat .ofOfNat0 33 := ⟨by decide⟩

structure PciAddress where
  slot : Fin 32
  function : Fin 8
  deriving DecidableEq, Inhabited

inductive PciAddress.Error where
  | slotOutOfRange (slot : UInt8)
  | functionOutOfRange (function : UInt8)
  | malformed (text : String)
  deriving DecidableEq

namespace PciAddress

def Error.message : Error → String
  | .slotOutOfRange slot =>
    "PCI slot 0x" ++ String.ofList (Numeral.hex slot.toNat) ++ " outside range of 0-0x1f"
  | .functionOutOfRange function =>
    "PCI function " ++ String.ofList (Numeral.decimal function.toNat) ++ " outside range of 0-7"
  | .malformed text => "failed to parse PCI address " ++ Text.quoted text

/-- The address of a slot and a function that are in range. -/
def ofNumbers (slot function : UInt8) : Except Error PciAddress :=
  if hs : slot.toNat < 32 then
    if hf : function.toNat < 8 then .ok ⟨⟨slot.toNat, hs⟩, ⟨function.toNat, hf⟩⟩
    else .error (.functionOutOfRange function)
  else .error (.slotOutOfRange slot)

def dropHexMark : List Char → List Char
  | '0' :: 'x' :: s => s
  | '0' :: 'X' :: s => s
  | s => s

/-- The numbers of a text `slot[.function]`; the slot is hexadecimal. -/
def numbers? (s : List Char) : Option (UInt8 × UInt8) := do
  let (slot, function) := match Text.Chars.splitFirst? '.' s with
    | some (slot, function) => (slot, some function)
    | none => (s, none)
  let slot ← Numeral.unsigned? 16 0xFF (dropHexMark (Text.Chars.trim slot))
  let function ← match function with
    | some f => Numeral.unsigned? 10 0xFF (Text.Chars.trim f)
    | none => some 0
  return (UInt8.ofNat slot, UInt8.ofNat function)

def ofText (s : String) : Except Error PciAddress :=
  match numbers? s.toList with
  | some (slot, function) => ofNumbers slot function
  | none => .error (.malformed s)

def text (a : PciAddress) : String :=
  "0x" ++ String.ofList (Numeral.padZeros 2 (Numeral.hex a.slot)) ++ "." ++
    String.ofList (Numeral.decimal a.function)

instance : Codec PciAddress where
  encode a := .str a.text
  read?
    | ⟨.str s, _⟩ => (ofText s).toOption
    | _ => none

example : (ofText "0x1f.2").toOption.map text = some "0x1f.2" := by decide +kernel
example : (ofText "0x20").toOption = none := by decide +kernel

end PciAddress

abbrev BusId := String

/-- The kind of a bus, which decides the form of its coordinates. -/
inductive BusKind where
  | pciRoot
  | pcieRoot
  /-- The one slot behind a PCIe root port. -/
  | pcieRootPort
  | pciBridge
  | pciePciBridge
  /-- The channel subsystem of s390. -/
  | ccw
  | virtioMmio
  | scsi
  | ide
  | usb
  | floppy
  | isaSerial
  | virtioSerial
  deriving DecidableEq, Inhabited

/-- Whether the coordinates of a bus are PCI addresses. -/
def BusKind.isPci : BusKind → Bool
  | pciRoot | pcieRoot | pcieRootPort | pciBridge | pciePciBridge => true
  | _ => false

instance : Named BusKind where
  all := [.pciRoot, .pcieRoot, .pcieRootPort, .pciBridge, .pciePciBridge, .ccw, .virtioMmio, .scsi,
    .ide, .usb, .floppy, .isaSerial, .virtioSerial]
  name
    | .pciRoot => "pci_root"
    | .pcieRoot => "pcie_root"
    | .pcieRootPort => "pcie_root_port"
    | .pciBridge => "pci_bridge"
    | .pciePciBridge => "pcie_pci_bridge"
    | .ccw => "ccw"
    | .virtioMmio => "virtio_mmio"
    | .scsi => "scsi"
    | .ide => "ide"
    | .usb => "usb"
    | .floppy => "floppy"
    | .isaSerial => "isa_serial"
    | .virtioSerial => "virtio_serial"

inductive Coordinate where
  | pci (addr : PciAddress)
  /-- A device number in the subchannel set `fe.0`. -/
  | ccw (devno : UInt16)
  | mmio (transport : UInt8)
  | scsi (target lun : UInt16)
  | unit (number : UInt8)
  | port (number : UInt8)
  deriving DecidableEq, Inhabited

namespace Coordinate

def text : Coordinate → String
  | pci addr => "addr " ++ addr.text
  | ccw devno =>
    "devno fe.0." ++ String.ofList (Numeral.padZeros 4 (Numeral.hex devno.toNat))
  | mmio transport => "transport " ++ String.ofList (Numeral.decimal transport.toNat)
  | scsi target lun =>
    "scsi-id " ++ String.ofList (Numeral.decimal target.toNat) ++ " lun " ++
      String.ofList (Numeral.decimal lun.toNat)
  | unit n => "unit " ++ String.ofList (Numeral.decimal n.toNat)
  | port n => "port " ++ String.ofList (Numeral.decimal n.toNat)

instance : Codec Coordinate where
  encode
    | pci addr => tagging "type" "pci" (field "addr" addr)
    | ccw devno => tagging "type" "ccw" (field "devno" devno)
    | mmio transport => tagging "type" "mmio" (field "transport" transport)
    | scsi target lun => tagging "type" "scsi" (field "target" target ++ field "lun" lun)
    | unit n => tagging "type" "unit" (field "unit" n)
    | port n => tagging "type" "port" (field "port" n)
  read? := tagged? "type" [
    ("pci", fun p => do
      let r ← record? ["addr"] p
      return .pci (← r.get "addr")),
    ("ccw", fun p => do
      let r ← record? ["devno"] p
      return .ccw (← r.get "devno")),
    ("mmio", fun p => do
      let r ← record? ["transport"] p
      return .mmio (← r.get "transport")),
    ("scsi", fun p => do
      let r ← record? ["target", "lun"] p
      return .scsi (← r.get "target") (← r.get "lun")),
    ("unit", fun p => do
      let r ← record? ["unit"] p
      return .unit (← r.get "unit")),
    ("port", fun p => do
      let r ← record? ["port"] p
      return .port (← r.get "port"))]

end Coordinate

structure Placement where
  bus : BusId
  coordinate : Coordinate
  deriving DecidableEq, Inhabited

def Placement.text (p : Placement) : String := p.bus ++ " " ++ p.coordinate.text

instance : Codec Placement where
  encode p := .obj (field "bus" p.bus ++ field "coordinate" p.coordinate)
  read? p := do
    let r ← record? ["bus", "coordinate"] p
    return ⟨← r.get "bus", ← r.get "coordinate"⟩

/-- A bus of the machine or of one of its controllers. -/
structure Bus where
  id : BusId
  kind : BusKind
  /-- The number of different coordinates on the bus. -/
  capacity : UInt32
  /-- The controller that provides the bus, unless it is built into the machine. -/
  controller : Option String
  deriving DecidableEq, Inhabited

instance : Codec Bus where
  encode b := .obj <|
    field "id" b.id ++ field "kind" b.kind ++ field "capacity" b.capacity ++
      optional "controller" b.controller
  read? p := do
    let r ← record? ["id", "kind", "capacity", "controller"] p
    return ⟨← r.get "id", ← r.get "kind", ← r.get "capacity", ← r.get? "controller"⟩

end GuestSpec

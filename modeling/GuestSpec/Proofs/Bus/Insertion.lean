import GuestSpec.Proofs.Bus.Outcome
import Mathlib.Logic.Relation

/-!
# Insertion of controllers

All that the buses of a guest go through is a chain of two kinds of steps: a claim, which is
`Granted`, and the insertion of a controller together with the claim of its seat. `Inserted` says
what an insertion does, `Part.Due` when the allocator makes one on its own. The operations on buses
are traced back to these steps once; every invariant is then checked against the steps.
-/

namespace GuestSpec

open Alloc (Granted NewBus)

def BusAllocator.hbaStem (a : BusAllocator) (family : HbaFamily) : String :=
  String.ofList ((a.hbaDriver family).toList.map fun c => if c = '-' then '_' else c)

def BusAllocator.newest (a : BusAllocator) : BusId := a.pciChain.getLast?.getD a.family.rootBus

/-- A controller that can be inserted. Only a USB controller may ask for a certain place. -/
inductive Part where
  | rootPort
  | pcieBridge
  | pciBridge
  | hba (family : HbaFamily)
  | ahci
  | usb (id model : String) (ports : UInt8) (ask : Option Placement)
  | fdc
  | virtioSerial

namespace Part

def id (a : BusAllocator) : Part → String
  | rootPort => BusAllocator.numbered "pcie-root-port-" a.rootPorts
  | pcieBridge => "pcie-pci-bridge-0"
  | pciBridge => BusAllocator.numbered "pci-bridge-" (a.pciChain.length - 1)
  | hba family => BusAllocator.numbered (a.hbaStem family) (a.hbaBuses family).length
  | ahci => "ahci0"
  | usb id _ _ _ => id
  | fdc => "fdc0"
  | virtioSerial => "virtio_serial0"

def driver (a : BusAllocator) : Part → String
  | rootPort => "pcie-root-port"
  | pcieBridge => "pcie-pci-bridge"
  | pciBridge => "pci-bridge"
  | hba family => a.hbaDriver family
  | ahci => "ich9-ahci"
  | usb _ model _ _ => model
  | fdc => "isa-fdc"
  | virtioSerial => a.family.virtioTransport.driver "virtio-serial"

/-- The targets of a SCSI adapter that is inserted, and the units of each. -/
def geometry (a : BusAllocator) (family : HbaFamily) : UInt16 × UInt16 :=
  (a.config.scsiMaxTargets.getD family.defaultGeometry.1,
    a.config.scsiMaxLuns.getD family.defaultGeometry.2)

def kind (a : BusAllocator) : Part → ControllerKind
  | rootPort => .pcieRootPort (UInt8.ofNat (a.rootPorts + 1)) (UInt8.ofNat (a.rootPorts + 1))
  | pcieBridge => .pciePciBridge
  | pciBridge => .pciBridge (UInt8.ofNat (a.pciChain.length - 1 + 1))
  | hba family => .scsiHba family (geometry a family).1 (geometry a family).2
  | ahci => .ahci
  | usb _ model _ _ => .usb model
  | fdc => .fdc
  | virtioSerial => .virtioSerial 31

def buses (a : BusAllocator) (part : Part) : List NewBus :=
  let id := part.id a
  match part with
  | rootPort => [⟨id, .pcieRootPort, .pci 1, []⟩]
  | pcieBridge => [⟨id, .pciePciBridge, .pciBus, [BusAllocator.slotZeroOf id]⟩]
  | pciBridge => [⟨id, .pciBridge, .pciBus, [BusAllocator.slotZeroOf id]⟩]
  | hba family => [⟨id ++ ".0", .scsi, .scsi (geometry a family).1 (geometry a family).2, []⟩]
  | ahci => ((List.range 6).map (BusAllocator.numbered (id ++ "."))).map
      fun bus => ⟨bus, .ide, .units 1, []⟩
  | usb _ _ ports _ => [⟨id ++ ".0", .usb, .ports ports, []⟩]
  | fdc => [⟨id ++ ".0", .floppy, .units 2, []⟩]
  | virtioSerial => [⟨id ++ ".0", .virtioSerial, .ports 31, []⟩]

/-- What the allocator notes about a part, apart from its controller and its buses. -/
def noted (a : BusAllocator) (part : Part) : BusAllocator :=
  let id := part.id a
  match part with
  | rootPort => { a with rootPorts := a.rootPorts + 1 }
  | pcieBridge => { a with pciePciBridge := some id }
  | pciBridge => { a with pciChain := a.pciChain ++ [id] }
  | hba family => { a with hbas := a.hbas ++ [(family, id ++ ".0")] }
  | ahci => { a with ahciBuses := (List.range 6).map (BusAllocator.numbered (id ++ ".")) }
  | usb _ model _ _ => { a with usb := a.usb ++ [(model, id ++ ".0")] }
  | fdc => { a with floppyBus := some (id ++ ".0") }
  | virtioSerial => { a with virtioSerialBus := some (id ++ ".0") }

def controller (a : BusAllocator) (part : Part) (placement : Option Placement) : Controller :=
  ⟨part.id a, part.driver a, placement, part.kind a, (part.buses a).map NewBus.id⟩

def nodes (a : BusAllocator) (part : Part) : List BusNode :=
  (part.buses a).map fun b => .ofShape b.id b.kind b.shape (some (part.id a)) b.reserved

def install (a : BusAllocator) (part : Part) (placement : Option Placement) : BusAllocator :=
  part.noted { a with
    buses := a.buses ++ part.nodes a
    controllers := a.controllers ++ [part.controller a placement] }

def ask : Part → Option Placement
  | usb _ _ _ ask => ask
  | _ => none

def Site (a : BusAllocator) (p : Placement) : Part → Prop
  | rootPort => p.bus = a.family.rootBus
  | pciBridge => ∃ n slot, a.node? a.newest = some n ∧ n.freeSlots.getLast? = some slot ∧
      p = ⟨a.newest, .pci ⟨slot, 0⟩⟩
  | _ => True

def IsBridge : Part → Prop
  | rootPort | pcieBridge | pciBridge => True
  | _ => False

/-- When the allocator inserts a part on its own. -/
def Due (a : BusAllocator) : Part → Prop
  | rootPort => a.family.isExpress = true ∧ a.config.rootPorts = true
  | pcieBridge => a.family.isExpress = true ∧ a.config.pciePciBridge = true ∧
      a.pciePciBridge = none
  | pciBridge => a.family.isExpress = false ∧ a.pciChain ≠ [] ∧ a.pciChain.length ≤ 255
  | hba family => family = .lsi → a.family.hasPci = true
  | ahci => a.ahciBuses = [] ∧ (a.family = .i440fx ∨ a.family = .armVirt false)
  | usb id model ports ask =>
    a.usb = [] ∧ id = "usb0" ∧ model = "qemu-xhci" ∧ ports = 4 ∧ ask = none
  | fdc => a.floppyBus = none ∧ a.family = .q35
  | virtioSerial => a.virtioSerialBus = none

/-- A part that enters: one that is due, or a USB controller, which callers may add at any time. -/
def Admitted (a : BusAllocator) (part : Part) : Prop :=
  part.Due a ∨ ∃ id model ports ask, part = .usb id model ports ask

end Part

/-- The claim of the seat of a part. Only the floppy controller has no seat. -/
def Seated (part : Part) (a : BusAllocator) : Option Placement → BusAllocator → Prop
  | none, b => part = .fdc ∧ b = a
  | some p, b => part ≠ .fdc ∧ part.Site a p ∧ Granted part.ask a (part.id a) p b

/-- A part is put in and claims its seat; nothing else happens. -/
def Inserted (part : Part) (a b : BusAllocator) : Prop :=
  ∃ placement c, Seated part a placement c ∧ b = part.install c placement

/-- Any number of insertions of the given parts that the allocator makes on its own. -/
def Insertions (S : Part → Prop) : BusAllocator → BusAllocator → Prop :=
  Relation.ReflTransGen fun a b => ∃ part, S part ∧ part.Due a ∧ Inserted part a b

abbrev Bridges : BusAllocator → BusAllocator → Prop := Insertions Part.IsBridge

abbrev AnyInsertions : BusAllocator → BusAllocator → Prop := Insertions fun _ => True

/-! ## What the steps leave alone -/

section Frame

variable {a b c : BusAllocator} {part : Part} {placement : Option Placement}

@[simp] theorem Part.buses_install :
    (part.install a placement).buses = a.buses ++ part.nodes a := by
  cases part <;> rfl

@[simp] theorem Part.controllers_install :
    (part.install a placement).controllers = a.controllers ++ [part.controller a placement] := by
  cases part <;> rfl

@[simp] theorem Part.family_install : (part.install a placement).family = a.family := by
  cases part <;> rfl

@[simp] theorem Part.config_install : (part.install a placement).config = a.config := by
  cases part <;> rfl

theorem Part.node?_install_of_node? {id : BusId} {n : BusNode} (hn : a.node? id = some n) :
    (part.install a placement).node? id = some n := by
  rw [BusAllocator.node?] at hn ⊢
  rw [buses_install, List.find?_append, hn, Option.some_or]

theorem Seated.eq_or_granted (h : Seated part a placement b) :
    (part = .fdc ∧ placement = none ∧ b = a) ∨
      ∃ p, placement = some p ∧ Granted part.ask a (part.id a) p b := by
  cases placement with
  | none => exact .inl ⟨h.1, rfl, h.2⟩
  | some p => exact .inr ⟨p, rfl, h.2.2⟩

/-- What every claim keeps, the claim of a seat keeps. -/
theorem Seated.preserves {I : BusAllocator → Prop} (hs : Seated part a placement b)
    (hgranted : ∀ {ask owner p}, Granted ask a owner p b → I b) (h : I a) : I b := by
  obtain ⟨-, -, rfl⟩ | ⟨p, -, hg⟩ := hs.eq_or_granted
  · exact h
  · exact hgranted hg

theorem Seated.eq_with (h : Seated part a placement b) : b = { a with buses := b.buses } := by
  obtain ⟨-, -, rfl⟩ | ⟨p, -, n, -, -, -, -, rfl⟩ := h.eq_or_granted <;> rfl

theorem Bridges.eq_with (h : Bridges a b) :
    ∃ buses controllers pciChain rootPorts pciePciBridge,
      b = { a with buses, controllers, pciChain, rootPorts, pciePciBridge } := by
  induction h with
  | refl => exact ⟨_, _, _, _, _, rfl⟩
  | tail _ hs ih =>
    obtain ⟨part, hb, -, placement, c, hseat, rfl⟩ := hs
    obtain ⟨_, _, _, _, _, rfl⟩ := ih
    rw [hseat.eq_with]
    cases part with
    | rootPort | pcieBridge | pciBridge => exact ⟨_, _, _, _, _, rfl⟩
    | hba | ahci | usb | fdc | virtioSerial => exact hb.elim

theorem Inserted.family_eq (h : Inserted part a b) : b.family = a.family := by
  obtain ⟨placement, c, hseat, rfl⟩ := h
  rw [Part.family_install, hseat.eq_with]

theorem Inserted.config_eq (h : Inserted part a b) : b.config = a.config := by
  obtain ⟨placement, c, hseat, rfl⟩ := h
  rw [Part.config_install, hseat.eq_with]

variable {S T : Part → Prop}

/-- What holds at first and is kept by every insertion that the allocator makes on its own holds
after any number of them. -/
theorem Insertions.induction {I : BusAllocator → Prop}
    (step : ∀ part a b, part.Due a → Inserted part a b → I a → I b) (h : Insertions S a b)
    (ha : I a) : I b := by
  induction h with
  | refl => exact ha
  | tail _ hs ih =>
    obtain ⟨part, -, hdue, hi⟩ := hs
    exact step part _ _ hdue hi ih

theorem Insertions.family_eq (h : Insertions S a b) : b.family = a.family :=
  h.induction (I := fun b => b.family = a.family) (fun _ _ _ _ hi ih => hi.family_eq.trans ih) rfl

theorem Insertions.config_eq (h : Insertions S a b) : b.config = a.config :=
  h.induction (I := fun b => b.config = a.config) (fun _ _ _ _ hi ih => hi.config_eq.trans ih) rfl

theorem Insertions.pciePciBridge_eq (hS : ¬S .pcieBridge) (h : Insertions S a b) :
    b.pciePciBridge = a.pciePciBridge := by
  induction h with
  | refl => rfl
  | tail _ hs ih =>
    obtain ⟨part, hpart, -, placement, c, hseat, rfl⟩ := hs
    rw [← ih, hseat.eq_with]
    cases part <;> first | rfl | exact absurd hpart hS

theorem Insertions.mono (hST : ∀ part, S part → T part) (h : Insertions S a b) :
    Insertions T a b := by
  refine Relation.ReflTransGen.mono ?_ _ _ h
  rintro _ _ ⟨part, hS, hdue, hi⟩
  exact ⟨part, hST part hS, hdue, hi⟩

theorem Bridges.any (h : Bridges a b) : AnyInsertions a b := Insertions.mono (fun _ _ => trivial) h

end Frame

/-! ## Growth -/

/-- The name of each bus still reaches that bus, and what was taken on it still is. -/
def Grows (a b : BusAllocator) : Prop :=
  ∀ id n, a.node? id = some n →
    ∃ m, b.node? id = some m ∧ m.bus = n.bus ∧ m.shape = n.shape ∧ m.reserved = n.reserved ∧
      n.claims <+: m.claims

namespace Grows

variable {a b c : BusAllocator} {part : Part}

theorem refl (a : BusAllocator) : Grows a a := by
  intro id n hn
  exact ⟨n, hn, rfl, rfl, rfl, List.prefix_refl _⟩

theorem trans (hab : Grows a b) (hbc : Grows b c) : Grows a c := by
  intro id n hn
  obtain ⟨m, hm, hbus, hshape, hreserved, hclaims⟩ := hab id n hn
  obtain ⟨k, hk, hbus', hshape', hreserved', hclaims'⟩ := hbc id m hm
  exact ⟨k, hk, hbus'.trans hbus, hshape'.trans hshape, hreserved'.trans hreserved,
    hclaims.trans hclaims'⟩

theorem granted {ask : Option Placement} {owner : String} {p : Placement}
    (h : Granted ask a owner p b) : Grows a b := by
  obtain ⟨_, -, -, -, -, rfl⟩ := h
  intro id n hn
  by_cases hid : id = p.bus
  · refine ⟨n.claim p.coordinate owner, ?_, rfl, rfl, rfl, ⟨_, rfl⟩⟩
    rw [BusAllocator.node?_addClaim, hn, Option.map_some, if_pos hid]
  · refine ⟨n, ?_, rfl, rfl, rfl, List.prefix_refl _⟩
    rw [BusAllocator.node?_addClaim, hn, Option.map_some, if_neg hid]

theorem install (placement : Option Placement) : Grows a (part.install a placement) := by
  intro id n hn
  exact ⟨n, Part.node?_install_of_node? hn, rfl, rfl, rfl, List.prefix_refl _⟩

theorem seated {placement : Option Placement} (h : Seated part a placement b) : Grows a b :=
  h.preserves granted (refl a)

theorem inserted (h : Inserted part a b) : Grows a b := by
  obtain ⟨placement, c, hseat, rfl⟩ := h
  exact (seated hseat).trans (install placement)

end Grows

end GuestSpec

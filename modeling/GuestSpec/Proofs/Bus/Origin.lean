import GuestSpec.Proofs.Bus.Run

/-!
# Where controllers come from

A controller has the driver of its kind. It is a root port or a PCIe-to-PCI bridge only where there
are such controllers, and a USB controller of another model than the default only where callers add
one of this model. All buses that it lists are there and name it as their controller.
-/

namespace GuestSpec

open Alloc BusAllocator

def ControllerKind.driver (family : MachineFamily) : ControllerKind → String
  | pcieRootPort .. => "pcie-root-port"
  | pciePciBridge => "pcie-pci-bridge"
  | pciBridge _ => "pci-bridge"
  | scsiHba .virtioScsi _ _ => family.virtioTransport.driver "virtio-scsi"
  | scsiHba .lsi _ _ => "lsi53c895a"
  | ahci => "ich9-ahci"
  | usb model => model
  | fdc => "isa-fdc"
  | virtioSerial _ => family.virtioTransport.driver "virtio-serial"

/-- Where a controller comes from, when callers add USB controllers of some models only. -/
structure Controller.Origin (family : MachineFamily) (config : AllocatorConfig)
    (asked : String → Prop) (d : Controller) : Prop where
  driver : d.driver = d.kind.driver family
  rootPort : ∀ chassis port, d.kind = .pcieRootPort chassis port → config.rootPorts = true
  pciePciBridge : d.kind = .pciePciBridge → config.pciePciBridge = true
  usb : ∀ model, d.kind = .usb model → model = "qemu-xhci" ∨ asked model

section Names

variable {family : MachineFamily} {kind : ControllerKind}

/-- Only root ports and PCIe-to-PCI bridges have the drivers of these, unless a USB controller is
said to be one. -/
theorem ControllerKind.driver_cases (family : MachineFamily) (kind : ControllerKind) :
    (∃ chassis port, kind = .pcieRootPort chassis port) ∨ kind = .pciePciBridge ∨
      (∃ model, kind = .usb model) ∨
      kind.driver family ∉ ["pcie-root-port", "pcie-pci-bridge"] := by
  have hfixed : ∀ name ∈ ["pci-bridge", "lsi53c895a", "ich9-ahci", "isa-fdc"],
      name ∉ ["pcie-root-port", "pcie-pci-bridge"] := by decide
  have hvirtio : ∀ base ∈ ["virtio-scsi", "virtio-serial"], ∀ family : MachineFamily,
      family.virtioTransport.driver base ∉ ["pcie-root-port", "pcie-pci-bridge"] := by decide
  cases kind with
  | pcieRootPort chassis port => exact .inl ⟨chassis, port, rfl⟩
  | pciePciBridge => exact .inr (.inl rfl)
  | usb model => exact .inr (.inr (.inl ⟨model, rfl⟩))
  | scsiHba hba =>
    cases hba with
    | virtioScsi => exact .inr (.inr (.inr (hvirtio "virtio-scsi" (by decide) family)))
    | lsi => exact .inr (.inr (.inr (hfixed "lsi53c895a" (by decide))))
  | virtioSerial => exact .inr (.inr (.inr (hvirtio "virtio-serial" (by decide) family)))
  | pciBridge => exact .inr (.inr (.inr (hfixed "pci-bridge" (by decide))))
  | ahci => exact .inr (.inr (.inr (hfixed "ich9-ahci" (by decide))))
  | fdc => exact .inr (.inr (.inr (hfixed "isa-fdc" (by decide))))

variable {config : AllocatorConfig} {asked : String → Prop} {d : Controller}

/-- The driver of a PCIe bridge is that of a bridge, since no USB controller is said to be one. -/
theorem Controller.Origin.kind_of_driver (h : d.Origin family config asked) {name : String}
    (hname : name ∈ ["pcie-root-port", "pcie-pci-bridge"]) (hasked : ¬asked name)
    (hd : d.driver = name) :
    (∃ chassis port, d.kind = .pcieRootPort chassis port) ∨ d.kind = .pciePciBridge := by
  subst hd
  rw [h.driver] at hname hasked
  obtain hport | hbridge | ⟨model, husb⟩ | hnone := d.kind.driver_cases family
  · exact .inl hport
  · exact .inr hbridge
  · rw [husb, ControllerKind.driver] at hname hasked
    obtain rfl | hmodel := h.usb model husb
    · exact absurd hname (by decide)
    · exact absurd hmodel hasked
  · exact absurd hname hnone

theorem Controller.Origin.rootPorts (h : d.Origin family config asked)
    (hasked : ¬asked "pcie-root-port")
    (hd : (∃ chassis port, d.kind = .pcieRootPort chassis port) ∨ d.driver = "pcie-root-port") :
    config.rootPorts = true := by
  have hport : ∃ chassis port, d.kind = .pcieRootPort chassis port := by
    refine hd.elim (fun hkind => hkind) fun hdriver => ?_
    refine (h.kind_of_driver (by decide) hasked hdriver).resolve_right fun hbridge => ?_
    rw [h.driver, hbridge, ControllerKind.driver] at hdriver
    exact absurd hdriver (by decide)
  obtain ⟨chassis, port, hkind⟩ := hport
  exact h.rootPort chassis port hkind

theorem Controller.Origin.bridge (h : d.Origin family config asked)
    (hasked : ¬asked "pcie-pci-bridge")
    (hd : d.kind = .pciePciBridge ∨ d.driver = "pcie-pci-bridge") :
    config.pciePciBridge = true := by
  refine h.pciePciBridge (hd.elim (fun hkind => hkind) fun hdriver => ?_)
  refine (h.kind_of_driver (by decide) hasked hdriver).resolve_left ?_
  rintro ⟨chassis, port, hport⟩
  rw [h.driver, hport, ControllerKind.driver] at hdriver
  exact absurd hdriver (by decide)

end Names

def BusAllocator.Origins (asked : String → Prop) (a : BusAllocator) : Prop :=
  ∀ d ∈ a.controllers, d.Origin a.family a.config asked

/-- All buses that a controller lists are there and name it as their controller. -/
def BusAllocator.Backed (a : BusAllocator) : Prop :=
  ∀ d ∈ a.controllers, ∀ id ∈ d.buses, ∃ n ∈ a.buses, n.bus.id = id ∧ n.bus.controller = some d.id

/-! ## Origins -/

theorem Part.driver_eq (a : BusAllocator) (part : Part) :
    part.driver a = (part.kind a).driver a.family := by
  cases part with
  | hba family => cases family <;> rfl
  | _ => rfl

theorem Part.origin_of_admitted {asked : String → Prop} {a : BusAllocator} {part : Part}
    (h : part.AdmittedOf asked a) (placement : Option Placement) :
    (part.controller a placement).Origin a.family a.config asked where
  driver := part.driver_eq a
  rootPort chassis port hkind := by
    cases part with
    | rootPort =>
      obtain hdue | ⟨_, _, _, _, husb, -⟩ := h
      · exact hdue.2
      · cases husb
    | _ => cases hkind
  pciePciBridge hkind := by
    cases part with
    | pcieBridge =>
      obtain hdue | ⟨_, _, _, _, husb, -⟩ := h
      · exact hdue.2.1
      · cases husb
    | _ => cases hkind
  usb model hkind := by
    cases part with
    | usb id model' ports ask =>
      obtain rfl := ControllerKind.usb.inj hkind
      obtain hdue | ⟨_, _, _, _, husb, hasked⟩ := h
      · exact .inl hdue.2.2.1
      · obtain ⟨-, rfl, -, -⟩ := Part.usb.inj husb
        exact .inr hasked
    | _ => cases hkind

namespace BusAllocator.Origins

variable {asked : String → Prop} {a b : BusAllocator}

theorem granted {ask : Option Placement} {owner : String} {p : Placement} (h : a.Origins asked)
    (hg : Granted ask a owner p b) : b.Origins asked := by
  obtain ⟨_, -, -, -, -, rfl⟩ := hg
  exact h

theorem inserted {part : Part} (h : a.Origins asked) (hp : part.AdmittedOf asked a)
    (hi : Inserted part a b) : b.Origins asked := by
  obtain ⟨placement, c, hseat, rfl⟩ := hi
  -- a seat is a claim, which changes nothing that an origin speaks of
  have hc : c.Origins asked := by
    rw [hseat.eq_with]
    exact h
  have hpart : part.AdmittedOf asked c := by
    rw [hseat.eq_with]
    exact hp
  intro d hd
  rw [Part.controllers_install, List.mem_append, List.mem_singleton] at hd
  rw [Part.family_install, Part.config_install]
  obtain hd | rfl := hd
  · exact hc d hd
  · exact part.origin_of_admitted hpart placement

end BusAllocator.Origins

theorem origins_run {asked : String → Prop} (family : MachineFamily) (machine : String)
    (config : AllocatorConfig) {calls : List BusCall}
    (hcalls : ∀ id model ports hint, .addUsb id model ports hint ∈ calls → asked model) :
    ∀ d ∈ ((start family machine config).afterAll calls).controllers,
      d.Origin family config asked := by
  have hstart : Grounded (start family machine config) := .start family machine config
  have horigins := afterAll_of (I := Origins asked) (fun _ _ _ _ _ hg h => h.granted hg)
    (fun _ _ _ hp hi h => h.inserted hp hi) hcalls hstart nofun
  have hfamily := family_afterAll hstart calls
  have hconfig := config_afterAll hstart calls
  intro d hd
  have hd := horigins d hd
  rw [hfamily, hconfig] at hd
  exact hd

/-! ## Buses -/

namespace BusAllocator.Backed

variable {a b : BusAllocator}

theorem granted {ask : Option Placement} {owner : String} {p : Placement} (h : a.Backed)
    (hg : Granted ask a owner p b) : b.Backed := by
  obtain ⟨_, -, -, -, -, rfl⟩ := hg
  intro d hd id hid
  obtain ⟨n, hn, hbus⟩ := h d hd id hid
  have hmem : n.bus ∈ (a.addClaim p.bus p.coordinate owner).buses.map BusNode.bus := by
    rw [map_bus_addClaim]
    exact List.mem_map_of_mem hn
  obtain ⟨m, hm, hsame⟩ := List.mem_map.1 hmem
  exact ⟨m, hm, hsame ▸ hbus⟩

theorem seated {part : Part} {placement : Option Placement} (h : a.Backed)
    (hs : Seated part a placement b) : b.Backed :=
  hs.preserves h.granted h

theorem inserted {part : Part} (h : a.Backed) (hi : Inserted part a b) : b.Backed := by
  obtain ⟨placement, c, hseat, rfl⟩ := hi
  intro d hd id hid
  rw [Part.controllers_install, List.mem_append, List.mem_singleton] at hd
  rw [Part.buses_install]
  obtain hd | rfl := hd
  · obtain ⟨n, hn, hbus⟩ := h.seated hseat d hd id hid
    exact ⟨n, List.mem_append_left _ hn, hbus⟩
  · obtain ⟨bus, hbus, rfl⟩ := List.mem_map.1 hid
    exact ⟨_, List.mem_append_right _ (List.mem_map_of_mem hbus), rfl, rfl⟩

end BusAllocator.Backed

theorem backed_run (family : MachineFamily) (machine : String) (config : AllocatorConfig)
    (calls : List BusCall) : ((start family machine config).afterAll calls).Backed :=
  run_induction (I := Backed) (fun _ _ _ _ _ hg h => h.granted hg)
    (fun _ _ _ _ hi h => h.inserted hi) (.start family machine config) nofun calls

end GuestSpec

import GuestSpec.Proofs.Bus.Names
import GuestSpec.Proofs.Compile.Planned
import GuestSpec.Proofs.Naming.Forms

/-!
# Names of controllers

A controller that the allocator inserts on its own has a name that is made up. These names are as
different as the names of the first buses behind the controllers, which are never given out twice.
USB controllers have the names that they are asked for; the allocator adds one of its own only where
nobody has asked for any.
-/

namespace GuestSpec

open Alloc BusAllocator

open BusName (Issued)

/-! ## Forms -/

namespace BusName

variable {family : MachineFamily} {x y : BusName}

/-- Whether a name is that of the first bus behind a controller that the allocator inserts on its
own account. -/
def Leads : BusName → Prop
  | rootPort _ | pcieBridge | pciBridge _ | hba _ _ | fdc | virtioSerial => True
  | ahci n => n = 0
  | _ => False

def form (family : MachineFamily) : BusName → Form
  | rootPort n => ⟨"pcie-root-port-", toString n⟩
  | pcieBridge => ⟨"pcie-pci-bridge-0", ""⟩
  | pciBridge n => ⟨"pci-bridge-", toString n⟩
  | hba h n => ⟨family.hbaStem h, toString n⟩
  | ahci _ => ⟨"ahci0", ""⟩
  | fdc => ⟨"fdc0", ""⟩
  | virtioSerial => ⟨"virtio_serial0", ""⟩
  | _ => ⟨"", ""⟩

def bridgeMarks : List String := ["pcie-root-port-", "pcie-pci-bridge-0", "pci-bridge-"]

/-- How the names begin of all controllers that the allocator inserts on its own account. -/
def controllerMarks : List String :=
  bridgeMarks ++ ["virtio_scsi_pci", "virtio_scsi_ccw", "virtio_scsi_device", "lsi53c895a", "ahci0",
    "fdc0", "virtio_serial0"]

def firstBus (f : Form) : BusId := if f.mark ∈ bridgeMarks then f.text else f.text ++ ".0"

theorem hbaStem_mem (family : MachineFamily) (h : HbaFamily) :
    family.hbaStem h ∈ controllerMarks ∧ family.hbaStem h ∉ bridgeMarks := by
  cases h with
  | lsi => exact (by decide : "lsi53c895a" ∈ controllerMarks ∧ "lsi53c895a" ∉ bridgeMarks)
  | virtioScsi =>
    rw [MachineFamily.hbaStem]
    cases family.virtioTransport <;> decide

theorem mark_mem_controllerMarks (h : x.Leads) : (x.form family).mark ∈ controllerMarks := by
  cases x with
  | hba f n => exact (hbaStem_mem family f).1
  | rootPort | pcieBridge | pciBridge | ahci | fdc | virtioSerial =>
    simp [form, controllerMarks, bridgeMarks]
  | _ => exact h.elim

theorem firstBus_form (h : x.Leads) : firstBus (x.form family) = x.text family := by
  cases x with
  | hba f n => exact if_neg (hbaStem_mem family f).2
  | rootPort | pcieBridge | pciBridge => exact if_pos (by simp [form, bridgeMarks])
  | fdc | virtioSerial => exact if_neg (by simp [form, bridgeMarks])
  | ahci n =>
    obtain rfl : n = 0 := h
    exact if_neg (by simp [form, bridgeMarks])
  | _ => exact h.elim

theorem Leads.not_isUsb (h : x.Leads) : ¬x.IsUsb := by
  cases x with
  | usb => exact h.elim
  | _ => exact fun hu => hu.elim

theorem form_inj (hx : x.Leads) (hy : y.Leads) (h : x.form family = y.form family) : x = y := by
  have htext : x.text family = y.text family := by
    rw [← firstBus_form hx, ← firstBus_form hy, h]
  exact text_inj hx.not_isUsb hy.not_isUsb htext

end BusName

/-! ## Parts -/

def ControllerKind.isUsb : ControllerKind → Bool
  | usb _ => true
  | _ => false

namespace Part

variable {a : BusAllocator} {part : Part} {placement : Option Placement}

def usbIds : Part → List String
  | usb id _ _ _ => [id]
  | _ => []

def leaders (a : BusAllocator) : Part → List BusName
  | rootPort => [.rootPort a.rootPorts]
  | pcieBridge => [.pcieBridge]
  | pciBridge => [.pciBridge (a.pciChain.length - 1)]
  | hba h => [.hba h (a.hbaBuses h).length]
  | ahci => [.ahci 0]
  | usb _ _ _ _ => []
  | fdc => [.fdc]
  | virtioSerial => [.virtioSerial]

theorem leads_of_mem_leaders {x : BusName} (h : x ∈ part.leaders a) : x.Leads := by
  cases part with
  | usb => cases h
  | _ =>
    obtain rfl := List.mem_singleton.1 h
    trivial

theorem mem_names_of_mem_leaders {x : BusName} (h : x ∈ part.leaders a) : x ∈ part.names a := by
  cases part with
  | usb => cases h
  | ahci =>
    obtain rfl := List.mem_singleton.1 h
    exact List.mem_map_of_mem (List.mem_range.2 (by decide))
  | _ => exact h

theorem nodup_leaders : (part.leaders a).Nodup := by
  cases part <;> first | exact List.nodup_nil | exact List.nodup_singleton _

/-- A part is either a USB controller with its own name or has the name of its first bus. -/
theorem ids_controller (part : Part) (a : BusAllocator) (placement : Option Placement) :
    ([part.controller a placement].filter (fun d => d.kind.isUsb)).map Controller.id = part.usbIds ∧
      ([part.controller a placement].filter (fun d => !d.kind.isUsb)).map Controller.id =
        (part.leaders a).map fun x => (x.form a.family).text := by
  cases part with
  | hba h =>
    refine ⟨rfl, ?_⟩
    change [numbered (a.hbaStem h) _] = [numbered (a.family.hbaStem h) _]
    rw [a.hbaStem_eq]
  | _ => exact ⟨rfl, rfl⟩

end Part

/-! ## Controllers -/

/-- The names of all controllers: those of USB controllers, and those made up for others. -/
structure BusAllocator.Registered (a : BusAllocator) (usb : List String) : Prop where
  own : ∃ names : List BusName, names.Nodup ∧ (∀ x ∈ names, x.Leads ∧ Issued a x) ∧
    (a.controllers.filter fun d => !d.kind.isUsb).map Controller.id =
      names.map fun x => (x.form a.family).text
  chosen : (a.controllers.filter fun d => d.kind.isUsb).map Controller.id = usb
  count : a.usb.length = usb.length

namespace BusAllocator.Registered

variable {a b : BusAllocator} {part : Part} {usb : List String}

theorem start (family : MachineFamily) (machine : String) (config : AllocatorConfig) :
    (BusAllocator.start family machine config).Registered [] where
  own := ⟨[], .nil, fun _ h => (nomatch h), rfl⟩
  chosen := rfl
  count := rfl

theorem granted {ask : Option Placement} {owner : String} {p : Placement} (h : a.Registered usb)
    (hg : Granted ask a owner p b) : b.Registered usb := by
  obtain ⟨-, -, -, -, -, rfl⟩ := hg
  obtain ⟨names, hnodup, hissued, hids⟩ := h.own
  refine ⟨⟨names, hnodup, fun x hx => ⟨(hissued x hx).1, ?_⟩, hids⟩, h.chosen, h.count⟩
  have hx := (hissued x hx).2
  cases x <;> exact hx

theorem length_usb_install (placement : Option Placement) :
    (part.install a placement).usb.length = a.usb.length + part.usbIds.length := by
  cases part with
  | usb => exact List.length_append
  | _ => rfl

theorem inserted (h : a.Registered usb) (hadm : part.Admitted a) (hi : Inserted part a b) :
    b.Registered (usb ++ part.usbIds) := by
  obtain ⟨placement, c, hs, rfl⟩ := hi
  have hc : c.Registered usb := hs.preserves (I := fun c => c.Registered usb) h.granted h
  have hadm := hs.admitted hadm
  obtain ⟨names, hnodup, hissued, hids⟩ := hc.own
  obtain ⟨husb, hown⟩ := part.ids_controller c placement
  refine ⟨⟨names ++ part.leaders c, ?_, fun x hx => ?_, ?_⟩, ?_, ?_⟩
  · refine hnodup.append Part.nodup_leaders fun x hx hleads => ?_
    have hdue : part.Due c := by
      apply hadm.due
      rintro id model ports ask rfl
      cases hleads
    exact Part.not_issued_of_mem_names hdue (Part.mem_names_of_mem_leaders hleads) (hissued x hx).2
  · obtain hx | hx := List.mem_append.1 hx
    · exact ⟨(hissued x hx).1, Part.issued_install (hissued x hx).2⟩
    · exact ⟨Part.leads_of_mem_leaders hx,
        Part.issued_of_mem_names hadm (Part.mem_names_of_mem_leaders hx)⟩
  · rw [Part.controllers_install, List.filter_append, List.map_append, hids, hown,
      Part.family_install, List.map_append]
  · rw [Part.controllers_install, List.filter_append, List.map_append, hc.chosen, husb]
  · rw [length_usb_install, hc.count, List.length_append]

theorem bridges (h : a.Registered usb) (hb : Bridges a b) : b.Registered usb := by
  induction hb with
  | refl => exact h
  | tail _ hs ih =>
    obtain ⟨part, hbridge, hdue, hi⟩ := hs
    have hinserted := ih.inserted (.inl hdue) hi
    have hnone : part.usbIds = [] := by
      cases part with
      | usb => exact hbridge.elim
      | _ => rfl
    rwa [hnone, List.append_nil] at hinserted

end BusAllocator.Registered

/-- USB controllers have the names that were asked for. When nobody asked for any, there may be one
that the allocator has added. -/
structure BusAllocator.Equipped (asked : List String) (a : BusAllocator) : Prop where
  grounded : a.Grounded
  registered : ∃ usb, a.Registered usb ∧ (usb = asked ∨ asked = [] ∧ usb = ["usb0"])

namespace BusAllocator.Equipped

variable {a b : BusAllocator} {part : Part} {asked : List String}

theorem granted {ask : Option Placement} {owner : String} {p : Placement} (h : a.Equipped asked)
    (hg : Granted ask a owner p b) : b.Equipped asked := by
  obtain ⟨usb, hreg, husb⟩ := h.registered
  exact ⟨h.grounded.granted hg, usb, hreg.granted hg, husb⟩

theorem inserted (h : a.Equipped asked) (hdue : part.Due a) (hi : Inserted part a b) :
    b.Equipped asked := by
  refine ⟨h.grounded.inserted (.inl hdue) hi, ?_⟩
  obtain ⟨usb, hreg, husb⟩ := h.registered
  have hinserted := hreg.inserted (.inl hdue) hi
  cases part with
  | usb id model ports ask =>
    -- there was no USB controller before
    obtain ⟨hnone, rfl, -⟩ := hdue
    have hlength := hreg.count
    rw [hnone, List.length_nil] at hlength
    obtain rfl := List.length_eq_zero_iff.1 hlength.symm
    refine ⟨_, hinserted, .inr ⟨?_, rfl⟩⟩
    obtain hasked | ⟨hasked, -⟩ := husb
    · exact hasked.symm
    · exact hasked
  | _ =>
    change b.Registered (usb ++ []) at hinserted
    rw [List.append_nil] at hinserted
    exact ⟨usb, hinserted, husb⟩

end BusAllocator.Equipped

/-! ## Plans -/

namespace Plan

variable {a b : BusAllocator} {asked : List String}

theorem equipped_after (d : UnplacedDevice) (h : a.Equipped asked) :
    (a.after (.place d.node.id d.request.bus d.request.hint)).Equipped asked := by
  have hchain : ∀ {S : Part → Prop} {c}, Insertions S a c → c.Equipped asked := fun hc =>
    hc.induction (fun _ _ _ hdue hi hb => hb.inserted hdue hi) h
  have heffect := BusCall.effect h.grounded (.place d.node.id d.request.bus d.request.hint)
  generalize BusCall.granted a _ = grant at heffect
  cases heffect with
  | nothing hc => exact hchain hc
  | placed hc hg => exact (hchain hc).granted hg

theorem ensures_equipped_place (d : UnplacedDevice) (h : a.Equipped asked) :
    Ensures d.place a (fun _ b => b.Equipped asked) (fun _ _ => True) :=
  (ensures_after _ (equipped_after d h)).bind fun _ _ hb => ensures_pure hb

theorem ensures_registered_usbControllers (rs : List UsbControllerRequest) {usb : List String}
    (ha : a.Grounded) (h : a.Registered usb) :
    Ensures (rs.forM placeUsbController) a
      (fun _ b => b.Grounded ∧ b.Registered (usb ++ rs.map UsbControllerRequest.id))
      (fun _ _ => True) := by
  have hempty : a.Grounded ∧ a.Registered (usb ++ [].map UsbControllerRequest.id) :=
    ⟨ha, by rwa [List.map_nil, List.append_nil]⟩
  refine ensures_forM (I := fun done b =>
    b.Grounded ∧ b.Registered (usb ++ done.map UsbControllerRequest.id)) ?_ [] hempty
  rintro r - done a ⟨ha, h⟩
  refine ((ensures_addUsbController ha r.id r.model r.ports r.hint).imp_error
    fun _ _ _ => trivial).imp fun _ b hb => ?_
  obtain ⟨c, ask, hbridges, hi, -⟩ := hb
  refine ⟨(ha.insertions hbridges).inserted (.inr ⟨_, _, _, _, rfl⟩) hi, ?_⟩
  rw [List.map_append, ← List.append_assoc]
  exact (h.bridges hbridges).inserted (.inr ⟨_, _, _, _, rfl⟩) hi

/-- Placing a plan leaves the USB controllers that it asks for, and others with names that are made
up. -/
theorem ensures_equipped_seat (plan : Plan) (family : MachineFamily) (machine : String)
    (config : AllocatorConfig) :
    Ensures plan.seat (start family machine config)
      (fun _ b => b.Equipped (plan.devices.usbControllers.map UsbControllerRequest.id))
      (fun _ _ => True) := by
  refine (ensures_registered_usbControllers _ (.start family machine config)
    (.start family machine config)).bind fun _ a ha => ?_
  have ha : a.Equipped (plan.devices.usbControllers.map UsbControllerRequest.id) :=
    ⟨ha.1, _, ha.2, .inl rfl⟩
  refine (ensures_mapM_same (fun d _ hb => ?_) _ ha).bind fun memory b hb => ?_
  · exact (ensures_equipped_place d.device hb).bind fun _ _ hc => ensures_pure hc
  refine (ensures_mapM_same (fun d _ hb => ?_) _ hb).bind fun disks b hb => ?_
  · exact (ensures_equipped_place d.device hb).bind fun _ _ hc => ensures_pure hc
  refine (ensures_mapM_same (fun n _ hb => ?_) _ hb).bind fun nics b hb => ?_
  · exact (ensures_equipped_place n.device hb).bind fun _ _ hc => ensures_pure hc
  exact (ensures_mapM_same (fun d _ hb => ensures_equipped_place d hb) _ hb).bind
    fun devices b hb => ensures_pure hb

end Plan

end GuestSpec

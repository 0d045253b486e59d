import GuestSpec.Machine.Memory
import GuestSpec.Proofs.Oracle.Guarantee
import Mathlib

/-!
# Memory that is plugged in

Every memory device has the size that its name asks for, and a backend that is persistent when the
device is. Memory modules take slots from zero on, one after the other, no matter which other
devices stand between them.
-/

namespace GuestSpec

open Guarantee

def MemoryBackendKind.isPersistent : MemoryBackendKind → Bool
  | file _ pmem => pmem
  | _ => false

def DeviceNode.slot? (d : DeviceNode) : Option UInt32 :=
  match d.props with
  | .dimm props => some props.slot
  | _ => none

/-- A device that brings memory to the machines of a family: a module, or a paravirtual device.
There are paravirtual devices with PCI, and without some of their settings also with MMIO. -/
def DeviceNode.IsMemoryOn (family : MachineFamily) (d : DeviceNode) : Prop :=
  match d.props with
  | .dimm props => d.driver = if props.nvdimm then "nvdimm" else "pc-dimm"
  | .virtioMem props =>
    d.driver = family.virtioTransport.driver "virtio-mem" ∧
      (family.virtioTransport = .pci ∨
        family.virtioTransport = .mmio ∧ props.node = none ∧ props.prealloc = none ∧
          props.dynamicMemslots = none)
  | _ => False

structure UnplacedMemoryDevice.MadeFor (p : Parameters) (family : MachineFamily) (name : String)
    (d : UnplacedMemoryDevice) : Prop where
  name_eq : d.name = name
  size : (p.scopedTo name).size? "size_mem" = .ok (some d.backend.sizeMib)
  device : d.device.node.IsMemoryOn family
  persistent : d.backend.kind.isPersistent = MemoryPlan.isNvdimm d.device.node

namespace MemoryPlan

def slotsOf (devices : List UnplacedMemoryDevice) : List Nat :=
  devices.filterMap fun d => d.device.node.slot?.map UInt32.toNat

def sizesOf (devices : List UnplacedMemoryDevice) : Nat :=
  (devices.map fun d => d.backend.sizeMib.toNat).sum

/-! ## Arithmetic -/

theorem toNat_nextSlot (slot : UInt32) :
    attempt.Holds (nextSlot slot) fun next => next.toNat = slot.toNat + 1 := by
  intro next h
  unfold nextSlot at h
  split at h
  · next hlt =>
    rw [← Except.ok.inj h, UInt32.toNat_add]
    exact Nat.mod_eq_of_lt hlt
  · cases h

theorem toNat_addSizes (a b : UInt64) :
    attempt.Holds (addSizes a b) fun sum => sum.toNat = a.toNat + b.toNat := by
  intro sum h
  unfold addSizes at h
  split at h
  · next hlt =>
    rw [← Except.ok.inj h, UInt64.toNat_add]
    exact Nat.mod_eq_of_lt hlt
  · cases h

/-! ## One device -/

theorem isPersistent_deviceBackendKind (name : String) (p : Parameters) (pmem : Bool) :
    attempt.Holds (deviceBackendKind name p pmem) fun kind => kind.isPersistent = pmem := by
  unfold deviceBackendKind
  generalize p.getD "backend_mem" _ = raw
  dsimp only
  split
  · exact attempt.bind attempt_trivial fun path => attempt.ret fun _ => rfl
  · split
    · exact nofun
    · -- the other kinds are left to memory that is not persistent
      next hpmem =>
      obtain rfl : pmem = false := by simpa using hpmem
      split
      · exact attempt.ret rfl
      · split
        · exact attempt.bind attempt_trivial fun hugepage => attempt.ret fun _ => rfl
        · exact nofun

theorem size_deviceBackend (name : String) (p : Parameters) (sizeMib : UInt64) (pmem : Bool) :
    attempt.Holds (deviceBackend name p sizeMib pmem) fun b =>
      b.sizeMib = sizeMib ∧ b.kind.isPersistent = pmem := by
  refine attempt.bind (isPersistent_deviceBackendKind name p pmem) fun kind => ?_
  refine attempt.bind attempt_trivial fun share => ?_
  exact attempt.bind attempt_trivial fun prealloc => attempt.ret fun _ _ h => ⟨rfl, h⟩

theorem isMemoryOn_virtioMem {m : Type → Type} (name : String) (p : Parameters) {t : Target m}
    (ht : t.family.virtioTransport ≠ .ccw) (backend : MemoryBackend) :
    attempt.Holds (virtioMem name p t backend) fun node =>
      node.IsMemoryOn t.family ∧ isNvdimm node = false ∧ node.slot? = none := by
  refine attempt.bind attempt_trivial fun requested => ?_
  refine attempt.bind attempt_trivial fun block => ?_
  refine attempt.bind attempt_trivial fun node => ?_
  refine attempt.bind attempt_trivial fun prealloc => ?_
  refine attempt.bind attempt_trivial fun memslots => attempt.ret fun _ _ _ _ _ => ?_
  refine ⟨⟨rfl, ?_⟩, rfl, rfl⟩
  cases htransport : t.family.virtioTransport with
  | pci => exact .inl rfl
  | mmio =>
    -- the settings that were read are dropped
    refine .inr ⟨rfl, ?_, ?_, ?_⟩
    · cases node <;> rfl
    · cases prealloc <;> rfl
    · cases memslots <;> rfl
  | ccw => exact absurd htransport ht

/-- A backend and a device for memory of a certain size, and the slot for the module after it. -/
structure Parts (family : MachineFamily) (sizeMib : UInt64) (slot : UInt32)
    (backend : MemoryBackend) (node : DeviceNode) (next : UInt32) : Prop where
  size : backend.sizeMib = sizeMib
  device : node.IsMemoryOn family
  persistent : backend.kind.isPersistent = isNvdimm node
  slots : node.slot? = some slot ∧ next.toNat = slot.toNat + 1 ∨ node.slot? = none ∧ next = slot

theorem parts_deviceParts {m : Type → Type} (name : String) (p : Parameters) (t : Target m)
    (sizeMib : UInt64) (pmem : Bool) (slot : UInt32) :
    attempt.Holds (deviceParts name p t sizeMib pmem slot) fun r =>
      Parts t.family sizeMib slot r.1 r.2.1 r.2.2.2 := by
  unfold deviceParts
  split
  · refine attempt.bind (attempt_parameters (size_deviceBackend name p sizeMib pmem))
      fun backend => ?_
    refine attempt.bind (toNat_nextSlot slot) fun next => attempt.ret fun hnext hbackend => ?_
    exact ⟨hbackend.1, rfl, hbackend.2, .inl ⟨rfl, hnext⟩⟩
  · refine attempt_unless fun ht => ?_
    refine attempt.bind (attempt_parameters (size_deviceBackend name p sizeMib false))
      fun backend => ?_
    refine attempt.bind (attempt_parameters (isMemoryOn_virtioMem name p ht backend))
      fun node => attempt.ret fun hnode hbackend => ?_
    exact ⟨hbackend.1, hnode.1, hbackend.2.trans hnode.2.1.symm, .inr ⟨hnode.2.2, rfl⟩⟩
  · exact fun _ h => nomatch h

/-! ## All devices -/

structure Devices.MadeFor (p : Parameters) (family : MachineFamily) (names : List String)
    (ds : Devices) : Prop where
  list : List.Forall₂ (UnplacedMemoryDevice.MadeFor p family) names ds.list
  nvdimm : ds.nvdimm = ds.list.any fun d => isNvdimm d.device.node
  slots : slotsOf ds.list = List.range ds.slots.toNat
  total : ds.totalMib.toNat = sizesOf ds.list

theorem Devices.MadeFor.empty (p : Parameters) (family : MachineFamily) :
    Devices.MadeFor p family [] ⟨[], false, 0, 0⟩ :=
  ⟨.nil, rfl, rfl, rfl⟩

/-- One more device: a module takes the slot that is next, and the others leave it alone. -/
theorem Devices.MadeFor.append {p : Parameters} {family : MachineFamily} {names : List String}
    {ds : Devices} (h : ds.MadeFor p family names) {name : String} {d : UnplacedMemoryDevice}
    (hd : d.MadeFor p family name) {sizeMib totalMib : UInt64} {next : UInt32}
    (hparts : Parts family sizeMib ds.slots d.backend d.device.node next)
    (htotal : totalMib.toNat = ds.totalMib.toNat + sizeMib.toNat) :
    Devices.MadeFor p family (names ++ [name])
      ⟨ds.list ++ [d], ds.nvdimm || isNvdimm d.device.node, next, totalMib⟩ where
  list := List.rel_append h.list (.cons hd .nil)
  nvdimm := by simp [h.nvdimm]
  slots := by
    rw [slotsOf, List.filterMap_append]
    obtain ⟨hslot, hnext⟩ | ⟨hslot, rfl⟩ := hparts.slots
    · rw [hnext, List.range_succ, ← h.slots]
      simp [slotsOf, hslot]
    · rw [← h.slots]
      simp [slotsOf, hslot]
  total := by
    rw [htotal, h.total, ← hparts.size]
    simp [sizesOf]

variable {m : Type → Type} [Monad m] [LawfulMonad m] {G : Guarantee m} {t : Target m}
  {K : Findings} (hK : G.Finds t.oracle K)

include hK

theorem madeFor_addDevice (p : Parameters) (names : List String) (ds : Devices) (name : String) :
    G.build.Holds (addDevice p t ds name) fun ds' =>
      ds.MadeFor p t.family names → ds'.MadeFor p t.family (names ++ [name]) := by
  refine G.bind_parameters fun sizeMib hsize => ?_
  cases sizeMib with
  | none => exact G.except_throw
  | some sizeMib =>
    refine G.bind_parameters fun pmem _ => ?_
    refine G.bind_attempt fun (backend, node, bus, next) hparts => ?_
    refine G.build.bind (holds_requireObject hK _) fun _ => ?_
    refine G.build.bind (holds_requireDevice hK _) fun _ => ?_
    refine G.bind_attempt fun totalMib htotal => G.build.ret fun _ _ hds => ?_
    have hparts := parts_deviceParts _ _ _ _ _ _ _ hparts
    have hd : UnplacedMemoryDevice.MadeFor p t.family name ⟨name, backend, ⟨node, .ofBus bus⟩⟩ :=
      ⟨rfl, hparts.size ▸ hsize, hparts.device, hparts.persistent⟩
    exact hds.append hd hparts (toNat_addSizes _ _ _ htotal)

/-- The memory devices of a guest are made for the names of a list. -/
theorem madeFor_devices (p : Parameters) :
    G.build.Holds ((p.objects "mem_devs").foldlM (addDevice p t) ⟨[], false, 0, 0⟩) fun ds =>
      ds.MadeFor p t.family (p.objects "mem_devs") :=
  G.build.mono (G.build.foldlM_along (I := Devices.MadeFor p t.family)
    (fun names ds name => madeFor_addDevice hK p names ds name) _ [] _)
    fun _ hds => hds (.empty p t.family)

end MemoryPlan

end GuestSpec

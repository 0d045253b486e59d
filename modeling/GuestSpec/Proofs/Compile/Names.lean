import GuestSpec.Proofs.Compile.BootOrder
import GuestSpec.Proofs.Naming.Controllers
import Mathlib

/-!
# Names in a document

Devices and controllers share one space of ids, block nodes and drives another, objects and memory
backends a third. Names that lists of objects declare stand in them beside names that the
compilation makes up, and nothing keeps the two apart. Names of one kind do not clash with each
other; so the ids of a space are different exactly when no declared name is a made up one.
-/

namespace GuestSpec

open Alloc BusAllocator

/-! ## Declared names -/

def objectLists : List String :=
  ["images", "cdroms", "floppies", "nics", "mem_devs", "usbs", "serials", "virtio_rngs", "tpms",
    "vsocks", "balloon", "inputs", "usb_devices", "monitors", "throttle_groups"]

def Parameters.declaredNames (p : Parameters) : List String := objectLists.flatMap p.objects

/-- The parameters that list devices and USB controllers by name. Memory devices are not among
them: their ids are made of their names. -/
def guestLists : List String :=
  ["images", "cdroms", "floppies", "nics", "usbs", "serials", "virtio_rngs", "tpms", "vsocks",
    "balloon", "inputs", "usb_devices"]

def Parameters.guestNames (p : Parameters) : List String := guestLists.flatMap p.objects

namespace InstanceSpec

/-! ## Names in a document -/

def guestIds (s : InstanceSpec) : List String :=
  s.allDevices.map DeviceNode.id ++ s.controllers.map Controller.id

/-- The controllers that no list of objects names. A USB controller is one of them when the list
of USB controllers is empty. -/
def ownControllers (p : Parameters) (s : InstanceSpec) : List Controller :=
  s.controllers.filter fun d => !d.kind.isUsb || (p.objects "usbs").isEmpty

/-- The ids of devices and controllers that are made up: those of memory devices, of watchdogs,
sound cards and displays, and of controllers without names. -/
def ownGuestIds (p : Parameters) (s : InstanceSpec) : List String :=
  s.memory.devices.map (fun d => d.device.id) ++
    (s.devices.filter fun d => d.props.isUnnamed).map DeviceNode.id ++
    (s.ownControllers p).map Controller.id

def storageNames (s : InstanceSpec) : List String := s.storage.flatMap fun d => d.backend.blockNames

def flashNames (s : InstanceSpec) : List String :=
  s.firmware.flash.flatMap fun i => i.backend.blockNames

def blockNames (s : InstanceSpec) : List String := s.storageNames ++ s.flashNames

def objectIds (s : InstanceSpec) : List String :=
  s.objects.map ObjectSpec.id ++ s.memory.backend.toList.map MemoryBackend.id ++
    s.memory.devices.map fun d => d.backend.id

/-- The ids of objects and memory backends that are made up: those of all but throttle groups. -/
def ownObjectIds (s : InstanceSpec) : List String :=
  (s.objects.filter fun o => !o.kind.isThrottleGroup).map ObjectSpec.id ++
    s.memory.backend.toList.map MemoryBackend.id ++ s.memory.devices.map fun d => d.backend.id

end InstanceSpec

/-! ## Documents of a plan -/

/-- An image of a document that a list of objects names. -/
structure Disk.Named (image : String) (d : Disk) : Prop where
  name : d.name = image
  id : d.device.id = image
  backend : d.backend.NamedAfter image

structure InstanceSpec.Labelled (p : Parameters) (s : InstanceSpec) : Prop where
  disks : List.Forall₂ Disk.Named p.imageNames s.storage
  nics : List.Forall₂ (fun name n => n.device.id = name) (p.objects "nics") s.network
  memory : List.Forall₂ MemoryDevice.Declared (p.objects "mem_devs") s.memory.devices
  machine : ∀ b ∈ s.memory.backend, b.id = "mem-machine_mem"
  named : (s.devices.filter fun d => !d.props.isUnnamed).map DeviceNode.id = p.deviceIds
  unnamed : MadeUp unnamedMarks
    ((s.devices.filter fun d => d.props.isUnnamed).map DeviceNode.id)
  controllers : MadeUp BusName.controllerMarks
    ((s.controllers.filter fun d => !d.kind.isUsb).map Controller.id)
  usb : (s.controllers.filter fun d => d.kind.isUsb).map Controller.id = p.objects "usbs" ∨
    p.objects "usbs" = [] ∧
      (s.controllers.filter fun d => d.kind.isUsb).map Controller.id = ["usb0"]
  flash : s.firmware.FlashNamed
  groups : (s.objects.filter fun o => o.kind.isThrottleGroup).map ObjectSpec.id =
    p.objects "throttle_groups"
  objects : ∃ images : List String, images.Sublist p.imageNames ∧
    (s.objects.filter fun o => !o.kind.isThrottleGroup).map ObjectSpec.id =
      (formsOf "sec_" images ++ (formsOf "rng_" (p.objects "virtio_rngs") ++
        formsOf "tpm_" (p.objects "tpms"))).map Form.text

theorem forall₂_zipWith {α β γ : Type} {R S : α → β → Prop} {f : β → γ → β}
    (hf : ∀ x y i, R x y → S x (f y i)) {xs : List α} {ys : List β} {is : List γ}
    (h : List.Forall₂ R xs ys) (hlength : ys.length ≤ is.length) :
    List.Forall₂ S xs (ys.zipWith f is) := by
  induction h generalizing is with
  | nil => exact .nil
  | cons hxy _ ih =>
    cases is with
    | nil => simp at hlength
    | cons i is => exact .cons (hf _ _ i hxy) (ih (by simpa using hlength))

theorem filter_map_eq_of_forall₂ {α β γ : Type} {P : α → Bool} {Q : β → Bool} {f : α → γ}
    {g : β → γ} {xs : List α} {ys : List β}
    (h : List.Forall₂ (fun x y => Q y = P x ∧ g y = f x) xs ys) :
    (ys.filter Q).map g = (xs.filter P).map f := by
  induction h with
  | nil => rfl
  | @cons x y _ _ hxy _ ih =>
    rw [List.filter_cons, List.filter_cons, hxy.1]
    split
    · rw [List.map_cons, List.map_cons, hxy.2, ih]
    · exact ih

theorem id_withIndex (d : DeviceNode) (i : Option UInt32) : (Plan.withIndex d i).id = d.id := by
  cases i with
  | none => rfl
  | some index =>
    rw [Plan.withIndex, DeviceNode.setBootindex]
    split <;> rfl

namespace Unordered.Ready

variable {p : Parameters} {u : Unordered} (h : u.Ready p)

include h

theorem filter_devices (Q : DeviceProps → Bool) :
    (u.placed.devices.filter fun d => Q d.props).map DeviceNode.id =
      (u.plan.devices.devices.filter fun d => Q d.node.props).map fun d => d.node.id := by
  refine filter_map_eq_of_forall₂ (h.seatedAs.devices.imp fun d d' hseated => ⟨?_, hseated.id⟩)
  rw [hseated.props]

theorem equipped : u.buses.Equipped (p.objects "usbs") := by
  obtain ⟨family, machineType, config, hseat⟩ := h.seat
  have hequipped := (u.plan.ensures_equipped_seat family machineType config).ok hseat
  rwa [h.plan.devices.usbControllers] at hequipped

theorem length_bootOrder :
    (bootOrder (u.plan.bootable.map UnplacedDevice.bootRequest)).length =
      u.placed.disks.length + u.placed.nics.length := by
  rw [(bootOrdered_bootOrder _).length, List.length_map, Plan.bootable, List.length_append,
    List.length_map, List.length_map, h.seatedAs.disks.length_eq, h.seatedAs.nics.length_eq]

theorem objectKinds :
    ∀ o ∈ u.plan.devices.objects, o.kind.isThrottleGroup = false := by
  obtain ⟨unnamed, -, -, hparts⟩ := h.plan.devices.parts
  exact hparts.kinds

/-- The document of a guest has the names that lists of objects give, and made up ones. -/
theorem labelled {spec : InstanceSpec} (hspec : u.finish = .ok spec) : spec.Labelled p := by
  obtain ⟨e, hfail, -⟩ | ⟨a, hok, -, hparts⟩ := h.finish _ h.bootRequests
  · exact nomatch hfail.symm.trans hspec
  have hcontrollers : a.controllers = u.buses.controllers := congrArg Prod.snd hparts
  obtain rfl := Except.ok.inj (hok.symm.trans hspec)
  have hlength := h.length_bootOrder
  obtain ⟨unnamed, hnodup, hmarks, hdevices⟩ := h.plan.devices.parts
  obtain ⟨usb, hregistered, husb⟩ := h.equipped.registered
  obtain ⟨names, hnames, hleads, hown⟩ := hregistered.own
  obtain ⟨images, hsub, hsecrets⟩ := h.plan.storage.secrets
  constructor
  case disks =>
    refine forall₂_zipWith (fun image d i hd => ?_) h.disks (by omega)
    exact ⟨hd.name, (id_withIndex _ _).trans hd.id, hd.backend⟩
  case nics =>
    refine forall₂_zipWith (fun name n i (hn : n.Declared name) => ?_) h.nics ?_
    · exact (id_withIndex _ _).trans hn.id
    · rw [List.length_drop]
      omega
  case memory => exact h.memory
  case machine => exact h.plan.memory.machine
  case named => exact (h.filter_devices fun props => !props.isUnnamed).trans hdevices.named
  case unnamed =>
    have hids := (h.filter_devices fun props => props.isUnnamed).trans hdevices.unnamed
    exact ⟨unnamed, hnodup, hmarks, .of_eq hids⟩
  case controllers =>
    refine ⟨names.map (BusName.form u.buses.family), ?_, ?_, ?_⟩
    · exact hnames.map_on fun x hx y hy => BusName.form_inj (hleads x hx).1 (hleads y hy).1
    · exact List.forall_mem_map.2 fun x hx => BusName.mark_mem_controllerMarks (hleads x hx).1
    · change ((a.controllers.filter _).map _).Perm _
      rw [hcontrollers, hown, List.map_map]
      exact .refl _
  case usb =>
    change (a.controllers.filter _).map _ = _ ∨ _ ∧ (a.controllers.filter _).map _ = _
    rw [hcontrollers, hregistered.chosen]
    exact husb
  case flash => exact h.plan.firmware
  case groups =>
    change ((u.plan.storage.objects ++ u.plan.devices.objects).filter _).map _ = _
    have hnone : (u.plan.devices.objects.filter fun o => o.kind.isThrottleGroup) = [] :=
      List.filter_eq_nil_iff.2 fun o ho => by simp [h.objectKinds o ho]
    rw [List.filter_append, hnone, List.append_nil, h.plan.storage.groups]
  case objects =>
    refine ⟨images, hsub, ?_⟩
    change ((u.plan.storage.objects ++ u.plan.devices.objects).filter _).map _ = _
    have hall : (u.plan.devices.objects.filter fun o => !o.kind.isThrottleGroup) =
        u.plan.devices.objects :=
      List.filter_eq_self.2 fun o ho => by simp [h.objectKinds o ho]
    rw [List.filter_append, hall, List.map_append, hsecrets, hdevices.objects, ← List.map_append]

end Unordered.Ready

end GuestSpec

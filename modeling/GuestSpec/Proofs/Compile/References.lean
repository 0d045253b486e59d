import GuestSpec.Proofs.Bus.Origin
import GuestSpec.Proofs.Compile.Planned
import Mathlib

/-!
# References in a document

A document is complete: the nodes, objects, channels and buses that its parts refer to by name are
in it, and they are of the kind that is referred to.
-/

namespace GuestSpec

open Alloc BusAllocator

/-- All that a document refers to is there. -/
structure InstanceSpec.Linked (s : InstanceSpec) : Prop where
  disks : ∀ d ∈ s.storage, d.device.AttachedTo d.backend
  backends : ∀ d ∈ s.storage, d.backend.Linked s.objects
  flash : ∀ i ∈ s.firmware.flash, i.backend.Linked s.objects
  nics : ∀ n ∈ s.network, ∃ p, n.device.props = .nic p ∧ p.netdev = n.netdev.id
  devices : ∀ d ∈ s.allDevices, d.Linked s.objects s.chardevs
  objects : ∀ o ∈ s.objects, o.Linked s.chardevs
  monitors : ∀ r ∈ s.monitors, ∃ c ∈ s.chardevs, c.id = r.chardev
  memory : ∀ d ∈ s.memory.devices, d.device.props.memdev? = some d.backend.id
  machine : s.machine.memoryBackend = s.memory.backend.map MemoryBackend.id
  firmware : s.machine.FlashedWith s.firmware
  /-- The buses of a controller name it as the one that provides them. -/
  buses : ∀ c ∈ s.controllers, ∀ id ∈ c.buses, ∃ b ∈ s.buses, b.id = id ∧ b.controller = some c.id

/-! ## Placed devices -/

namespace DeviceNode

variable {d d' : DeviceNode}

theorem AttachedTo.becomes {b : StorageBackend} (h : d.AttachedTo b) (hd : d.Becomes d') :
    d'.AttachedTo b where
  drive := by
    obtain ⟨p, hp, hdrive⟩ := h.drive
    obtain ⟨p', hp', hdrive'⟩ := (hp ▸ hd.props).eq_of_disk
    exact ⟨p', hp', hdrive'.trans hdrive⟩
  none_iff := h.none_iff

theorem Linked.becomes {objects : List ObjectSpec} {chardevs : List Chardev}
    (h : d.Linked objects chardevs) (hd : d.Becomes d') : d'.Linked objects chardevs := by
  obtain hsame | ⟨r, hr⟩ | ⟨r, hr⟩ := hd.props.eq_or
  · exact ⟨fun _ _ hp => h.serial _ _ (hsame ▸ hp), fun _ hp => h.rng _ (hsame ▸ hp),
      fun _ hp => h.tpm _ (hsame ▸ hp)⟩
  · exact linked_of_isPlain (by rw [hr]; rfl) _ _
  · exact linked_of_isPlain (by rw [hr]; rfl) _ _

end DeviceNode

/-! ## Documents -/

namespace Plan

variable {K : Findings} {plan : Plan} {placed : Placed} {a b : BusAllocator}

theorem linked_document (h : plan.Planned K) (hplaced : plan.PlacedFrom placed) (hb : b.Backed)
    (vmName : String) : (plan.document vmName placed b).Linked where
  disks d' hd' := by
    obtain ⟨d, hd, hbackend, hnode⟩ := hplaced.disks d' hd'
    rw [hbackend]
    exact (h.storage.disks d hd).attached.becomes hnode
  backends d' hd' := by
    obtain ⟨d, hd, hbackend, -⟩ := hplaced.disks d' hd'
    rw [hbackend]
    exact (h.storage.disks d hd).linked.mono (List.subset_append_left _ _)
  flash i hi := by
    refine ⟨fun group hg => ?_, fun id hid => ?_⟩
    · rw [h.firmware.throttleGroups i hi] at hg
      cases hg
    · rw [h.firmware.keySecrets i hi] at hid
      cases hid
  nics n' hn' := by
    obtain ⟨n, hn, hnetdev, hnode⟩ := hplaced.nics n' hn'
    obtain ⟨p, hp, hid⟩ := (h.devices.nics n hn).netdev
    obtain ⟨p', hp', hid'⟩ := (hp ▸ hnode.props).eq_of_nic
    rw [hnetdev]
    exact ⟨p', hp', hid'.trans hid⟩
  devices d' hd' := by
    obtain hd' | hd' := List.mem_append.1 hd'
    · exact DeviceNode.linked_of_isPlain (plain_of_mem_sections h hplaced hd').1 _ _
    · obtain ⟨d, hd, hnode⟩ := hplaced.devices d' hd'
      refine ((h.devices.parts.linked d hd).becomes hnode).mono ?_ ?_
      · exact List.subset_append_right _ _
      · exact List.subset_append_right _ _
  objects o ho := by
    obtain ho | ho := List.mem_append.1 ho
    · intro chardev hchardev
      obtain ⟨_, hkind⟩ | ⟨_, hkind⟩ := (h.storage.objects o ho).kind
      all_goals
        rw [hkind] at hchardev
        cases hchardev
    · exact (h.devices.parts.objects o ho).mono (List.subset_append_right _ _)
  monitors r hr := by
    obtain ⟨planned, hplanned, rfl⟩ := List.mem_map.1 hr
    have hid := h.monitors planned hplanned
    exact ⟨planned.2, List.mem_append_left _ (List.mem_map_of_mem hplanned), hid.symm⟩
  memory d' hd' := by
    obtain ⟨d, hd, hbackend, hnode⟩ := hplaced.memory d' hd'
    rw [hbackend, hnode.props.memdev?_eq]
    exact (h.memory.devices d hd).memdev
  machine := rfl
  firmware := ⟨h.flash.code, h.flash.vars, h.flash.code_isSome, h.flash.vars_isSome⟩
  buses c hc id hid := by
    obtain ⟨n, hn, hbus⟩ := hb c hc id hid
    exact ⟨n.bus, List.mem_map_of_mem hn, hbus⟩

end Plan

theorem InstanceSpec.Assembled.linked {K : Findings} {vmName : String} {spec : InstanceSpec}
    (h : spec.Assembled K vmName) : spec.Linked := by
  obtain ⟨machineType, config, plan, -, hplan, hspec⟩ := h
  obtain ⟨placed, b, hplaced, ⟨calls, -, rfl⟩, rfl⟩ := Plan.exists_placed_of_assemble hspec
  exact plan.linked_document hplan hplaced (backed_run _ _ _ calls) vmName

/-- What every possible result of a step satisfies. -/
def Guarantee.satisfied {m : Type → Type} [Monad m] [LawfulMonad m] : Guarantee m where
  Holds x Q := SatisfiesM Q x
  ret := SatisfiesM.pure
  bind hx hf := SatisfiesM.bind hx fun a ha => SatisfiesM.imp (hf a) fun hb => hb ha
  mono hx h := SatisfiesM.imp hx (h _)

/-- In every document that a compilation gives, all that is referred to by name is there: nodes and
drives behind disks and firmware, throttle groups, secrets, objects and channels behind devices,
backends of networks and of memory, and the buses of controllers; whatever the hypervisor answers,
and whatever resources and identifiers are handed out. -/
theorem linked_compile {m : Type → Type} [Monad m] [LawfulMonad m] {H I : Type}
    [HostResources H] [Identifiers I] (o : Oracle m) (host : H) (vmName : String) (p : Parameters)
    (ids : I) :
    SatisfiesM (fun r => ∀ spec, r.1 = .ok spec → spec.Linked) (compile o host vmName p ids) := by
  have hfinds : Guarantee.satisfied.Finds o .any := fun _ => SatisfiesM.trivial
  have hcompile := holds_compile hfinds host vmName p ids
  exact SatisfiesM.imp hcompile fun h spec hspec => (h spec hspec).linked

/-- A guest with a throttled image, a serial port and a source of random numbers behind a channel of
its own, on a hypervisor that has everything. -/
theorem linked_compile_throttled :
    let o : Oracle Id := ⟨fun _ => true, fun _ => true, fun _ => true, fun _ => true, none⟩
    let p : Parameters := .ofList [("images", "a"), ("throttle_groups", "g"),
      ("image_throttle_group", "g"), ("serials", "s"), ("virtio_rngs", "r"),
      ("backend_rng", "rng-egd")]
    ∃ spec, (compile o (default : Host) "vm" p IdSource.counting).run.1 = .ok spec ∧
      (spec.storage.map fun d => d.backend.throttleGroups) = [["g"]] ∧
      spec.objects.map ObjectSpec.id = ["g", "rng_r"] ∧
      spec.chardevs.map Chardev.id = ["chardev_s", "chardev_r"] ∧ spec.Linked := by
  intro o p
  have hparts : (compile o (default : Host) "vm" p IdSource.counting).run.1.toOption.map
      (fun spec => (spec.storage.map fun d => d.backend.throttleGroups,
        spec.objects.map ObjectSpec.id, spec.chardevs.map Chardev.id)) =
      some ([["g"]], ["g", "rng_r"], ["chardev_s", "chardev_r"]) := by decide +kernel
  obtain ⟨spec, hok, hparts⟩ := exists_ok_of_map_toOption hparts
  obtain ⟨hgroups, hrest⟩ := Prod.mk.inj hparts
  obtain ⟨hobjects, hchardevs⟩ := Prod.mk.inj hrest
  have hall := SatisfiesM_Id_eq.1 (linked_compile o (default : Host) "vm" p IdSource.counting)
  exact ⟨spec, hok, hgroups, hobjects, hchardevs, hall spec hok⟩

end GuestSpec

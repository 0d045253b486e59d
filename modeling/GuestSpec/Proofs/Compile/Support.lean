import GuestSpec.Proofs.Bus.Origin
import GuestSpec.Proofs.Compile.Planned
import GuestSpec.Proofs.Oracle.Steady

/-!
# What a document needs of the hypervisor

Every device model and every object type that a document makes use of was found in the hypervisor,
and each feature that has a form of its own is in this form exactly where the hypervisor has it. Not
looked up are the objects behind trusted platform modules, and the controllers that are inserted
while devices are placed, apart from the bridges of PCI Express.
-/

namespace GuestSpec

open Alloc BusAllocator

/-- What a document makes use of is what the hypervisor is found to have. -/
structure InstanceSpec.SupportedBy (K : Findings) (s : InstanceSpec) : Prop where
  drivers : ∀ d ∈ s.allDevices, K.allows (.hasDevice d.driver) true
  codecs : ∀ d ∈ s.allDevices, ∀ codec, d.props = .sound (some codec) →
    K.allows (.hasDevice codec) true
  objects : ∀ o ∈ s.objects, o.Known K
  memoryObjects : ∀ b, s.memory.backend = some b ∨ (∃ d ∈ s.memory.devices, d.backend = b) →
    K.allows (.hasObject b.kind.typeName) true
  disksLayered : ∀ d ∈ s.storage, d.backend ≠ .empty →
    K.allows (.probe .blockdev) d.backend.isLayered
  flashLayered : ∀ i ∈ s.firmware.flash, K.allows (.probe .blockdev) i.backend.isLayered
  bareProtocol : ∀ d ∈ s.storage, d.backend.isBareProtocol = true →
    K.allows (.probe .rawProtocolAttach) true
  machineMemory : ∀ id, s.machine.memoryBackend = some id →
    K.allows (.probe .machineMemoryBackend) true
  dies : K.allows (.probe .smpDies) s.cpu.topology.dies.isSome
  clusters : K.allows (.probe .smpClusters) s.cpu.topology.clusters.isSome
  books : K.allows (.probe .smpBooks) s.cpu.topology.books.isSome
  drawers : K.allows (.probe .smpDrawers) s.cpu.topology.drawers.isSome
  rootPorts : ∀ c ∈ s.controllers,
    (∃ chassis port, c.kind = .pcieRootPort chassis port) ∨ c.driver = "pcie-root-port" →
      K.allows (.probe .pcieRootPort) true
  pciePciBridge : ∀ c ∈ s.controllers, c.kind = .pciePciBridge ∨ c.driver = "pcie-pci-bridge" →
    K.allows (.probe .pciePciBridge) true

theorem DeviceNode.Known.becomes {K : Findings} {d d' : DeviceNode} (h : d.Known K)
    (hd : d.Becomes d') : d'.Known K where
  driver := hd.driver ▸ h.driver
  codec codec hcodec := by
    obtain hsame | ⟨r, hr⟩ | ⟨r, hr⟩ := hd.props.eq_or
    · exact h.codec codec (hsame ▸ hcodec)
    · cases hr.symm.trans hcodec
    · cases hr.symm.trans hcodec

namespace Plan

variable {K : Findings} {plan : Plan} {placed : Placed} {b : BusAllocator}
  {family : MachineFamily} {machine : String} {config : AllocatorConfig}

/-- USB controllers come from the plan, or they are of the default model. -/
theorem origin_of_reached (h : plan.Reached (.start family machine config) b) :
    ∀ d ∈ b.controllers, d.Origin family config plan.AsksFor := by
  obtain ⟨calls, hcalls, rfl⟩ := h
  exact origins_run family machine config fun id model ports hint hmem =>
    hcalls (.addUsb id model ports hint) hmem

theorem not_asksFor (h : plan.Planned K) {name : String}
    (hname : DevicePlan.usbPorts? name = none) : ¬plan.AsksFor name := by
  rintro ⟨r, hr, rfl⟩
  have hhost := (h.devices.usbControllers r hr).host
  rw [hname] at hhost
  cases hhost

theorem known_of_mem_allDevices (h : plan.Planned K) (hplaced : plan.PlacedFrom placed)
    (vmName : String) {d : DeviceNode} (hd : d ∈ (plan.document vmName placed b).allDevices) :
    d.Known K := by
  obtain hd | hd := List.mem_append.1 hd
  · have hplain := plain_of_mem_sections h hplaced hd
    exact DeviceNode.known_of_isPlain hplain.1 hplain.2
  · obtain ⟨planned, hplanned, hnode⟩ := hplaced.devices d hd
    exact (h.devices.parts.known planned hplanned).becomes hnode

theorem supportedBy_document (hconfig : config.Planned K) (h : plan.Planned K)
    (hplaced : plan.PlacedFrom placed) (hb : plan.Reached (.start family machine config) b)
    (vmName : String) : (plan.document vmName placed b).SupportedBy K where
  drivers d hd := (known_of_mem_allDevices h hplaced vmName hd).driver
  codecs d hd := (known_of_mem_allDevices h hplaced vmName hd).codec
  objects o ho := by
    obtain ho | ho := List.mem_append.1 ho
    · exact fun _ => (h.storage.objects o ho).type
    · exact h.devices.parts.types o ho
  memoryObjects backend hbackend := by
    obtain hbackend | ⟨d', hd', rfl⟩ := hbackend
    · exact h.memory.backend backend hbackend
    · obtain ⟨d, hd, hsame, -⟩ := hplaced.memory d' hd'
      rw [hsame]
      exact (h.memory.devices d hd).backend
  disksLayered d' hd' hne := by
    obtain ⟨d, hd, hsame, -⟩ := hplaced.disks d' hd'
    rw [hsame] at hne ⊢
    exact (h.storage.disks d hd).layered.resolve_left hne
  flashLayered := h.firmware.layered
  bareProtocol d' hd' hbare := by
    obtain ⟨d, hd, hsame, -⟩ := hplaced.disks d' hd'
    rw [hsame] at hbare
    exact (h.storage.disks d hd).bare hbare
  machineMemory id hid := by
    obtain ⟨backend, hbackend, -⟩ := Option.map_eq_some_iff.1 hid
    exact h.memory.machine backend hbackend
  dies := h.cpu.dies
  clusters := h.cpu.clusters
  books := h.cpu.books
  drawers := h.cpu.drawers
  rootPorts d hd hport := by
    have horigin := origin_of_reached hb d hd
    have hports := horigin.rootPorts (not_asksFor h (by decide)) hport
    exact hports ▸ hconfig.rootPorts
  pciePciBridge d hd hbridge := by
    have horigin := origin_of_reached hb d hd
    have hports := horigin.bridge (not_asksFor h (by decide)) hbridge
    exact hports ▸ hconfig.pciePciBridge

end Plan

theorem InstanceSpec.Assembled.supportedBy {K : Findings} {vmName : String} {spec : InstanceSpec}
    (h : spec.Assembled K vmName) : spec.SupportedBy K := by
  obtain ⟨machineType, config, plan, hconfig, hplan, hspec⟩ := h
  obtain ⟨placed, b, hplaced, hb, rfl⟩ := Plan.exists_placed_of_assemble hspec
  exact plan.supportedBy_document hconfig hplan hplaced hb vmName

/-- Every document that a compilation gives makes use of nothing but what the oracle told about the
hypervisor in the course of the compilation. If the oracle takes no answer back, this is what it
answers in the end. -/
theorem supportedBy_compile {σ H I : Type} [HostResources H] [Identifiers I]
    (o : Oracle (StateM σ)) (host : H) (vmName : String) (p : Parameters) (ids ids' : I)
    (s s' : σ) (spec : InstanceSpec)
    (h : Oracle.runFrom (compile o host vmName p ids) s = ((.ok spec, ids'), s')) :
    spec.SupportedBy (o.told s s') ∧ (o.Steady → spec.SupportedBy (o.answers s').findings) := by
  have hsupported : ∀ K, (o.during s s').Finds o K → spec.SupportedBy K := by
    intro K hK
    have hassembled := Oracle.holds_during (holds_compile hK host vmName p ids) h
    exact (hassembled spec rfl).supportedBy
  exact ⟨hsupported _ (o.finds_told s s'), fun ho => hsupported _ (ho.finds s s')⟩

/-- A guest with an image and a source of random numbers, on a hypervisor that has little more than
these. -/
theorem supportedBy_compile_rng :
    let caps : CapabilitySet := ⟨some (.release 8 2 0), [.blockdev],
      ["pcie-root-port", "virtio-blk-pci", "virtio-rng-pci"], ["rng-random"]⟩
    let o : Oracle (StateM Unit) := caps.oracle
    let p : Parameters := .ofList [("images", "a"), ("virtio_rngs", "r"), ("vga", "none")]
    ∃ spec ids,
      Oracle.runFrom (compile o (default : Host) "vm" p IdSource.counting) () =
        ((.ok spec, ids), ()) ∧
      spec.allDevices.map DeviceNode.driver = ["virtio-blk-pci", "virtio-rng-pci"] ∧
      spec.controllers.length = 2 ∧ spec.SupportedBy (o.answers ()).findings := by
  intro caps o p
  have hparts :
      (Oracle.runFrom (compile o (default : Host) "vm" p IdSource.counting) ()).1.1.toOption.map
        (fun spec => (spec.allDevices.map DeviceNode.driver, spec.controllers.length)) =
        some (["virtio-blk-pci", "virtio-rng-pci"], 2) := by decide +kernel
  obtain ⟨spec, ids, hrun, hparts⟩ := exists_run_of_map_toOption hparts
  obtain ⟨hdrivers, hcontrollers⟩ := Prod.mk.inj hparts
  exact ⟨spec, ids, hrun, hdrivers, hcontrollers,
    (supportedBy_compile o (default : Host) "vm" p IdSource.counting ids () () spec hrun).2
      caps.steady_oracle⟩

end GuestSpec

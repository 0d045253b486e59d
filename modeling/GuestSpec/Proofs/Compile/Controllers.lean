import GuestSpec.Proofs.Compile.Support

/-!
# Controllers that the hypervisor lacks

A USB controller that is asked for was found in the hypervisor, and PCI Express is extended only by
bridges that it has. All other controllers are inserted when devices are placed, without a look at
the hypervisor, so a document may have a controller that cannot be created.
-/

namespace GuestSpec

open Alloc BusAllocator

/-- A kind of controller that is inserted for devices without a look at the hypervisor. USB
controllers of other models than the default are only there when they are asked for. -/
def ControllerKind.isOnDemand : ControllerKind → Bool
  | pcieRootPort .. | pciePciBridge => false
  | usb model => model == "qemu-xhci"
  | pciBridge _ | scsiHba .. | ahci | fdc | virtioSerial _ => true

variable {K : Findings}

/-- The hypervisor has the bridges of PCI Express that it is found to have. -/
structure Findings.HasBridges (K : Findings) : Prop where
  rootPort : K.allows (.probe .pcieRootPort) true → K.allows (.hasDevice "pcie-root-port") true
  pciePciBridge :
    K.allows (.probe .pciePciBridge) true → K.allows (.hasDevice "pcie-pci-bridge") true

theorem Plan.allows_of_origin {plan : Plan} {config : AllocatorConfig} {family : MachineFamily}
    {c : Controller} (h : plan.Planned K) (hconfig : config.Planned K) (hbridges : K.HasBridges)
    (horigin : c.Origin family config plan.AsksFor) (hc : c.kind.isOnDemand = false) :
    K.allows (.hasDevice c.driver) true := by
  rw [horigin.driver]
  cases hkind : c.kind with
  | pcieRootPort chassis port =>
    exact hbridges.rootPort (horigin.rootPort chassis port hkind ▸ hconfig.rootPorts)
  | pciePciBridge =>
    exact hbridges.pciePciBridge (horigin.pciePciBridge hkind ▸ hconfig.pciePciBridge)
  | usb model =>
    obtain rfl | ⟨r, hr, rfl⟩ := horigin.usb model hkind
    · rw [hkind] at hc
      cases hc
    · exact (h.devices.usbControllers r hr).known
  | pciBridge | scsiHba | ahci | fdc | virtioSerial =>
    rw [hkind] at hc
    cases hc

theorem InstanceSpec.Assembled.allows_driver {vmName : String} {spec : InstanceSpec}
    (h : spec.Assembled K vmName) (hbridges : K.HasBridges) {c : Controller}
    (hmem : c ∈ spec.controllers) (hc : c.kind.isOnDemand = false) :
    K.allows (.hasDevice c.driver) true := by
  obtain ⟨machineType, config, plan, hconfig, hplan, hspec⟩ := h
  obtain ⟨placed, b, -, hb, rfl⟩ := Plan.exists_placed_of_assemble hspec
  exact Plan.allows_of_origin hplan hconfig hbridges (Plan.origin_of_reached hb c hmem) hc

/-- A hypervisor that has the bridges of PCI Express exactly where they are reported has all
controllers of a document exactly when it has those that are inserted on demand. -/
theorem hasDevice_controllers_iff {σ H I : Type} [HostResources H] [Identifiers I]
    (o : Oracle (StateM σ)) (ho : o.Steady) (host : H) (vmName : String) (p : Parameters)
    (ids ids' : I) (s s' : σ) (spec : InstanceSpec)
    (h : Oracle.runFrom (compile o host vmName p ids) s = ((.ok spec, ids'), s'))
    (hroot : (o.answers s').probe .pcieRootPort = (o.answers s').hasDevice "pcie-root-port")
    (hbridge : (o.answers s').probe .pciePciBridge = (o.answers s').hasDevice "pcie-pci-bridge") :
    (∀ c ∈ spec.controllers, (o.answers s').hasDevice c.driver = true) ↔
      ∀ c ∈ spec.controllers, c.kind.isOnDemand = true →
        (o.answers s').hasDevice c.driver = true := by
  have hbridges : (o.answers s').findings.HasBridges :=
    ⟨fun hp => hroot.symm.trans hp, fun hp => hbridge.symm.trans hp⟩
  have hassembled := Oracle.holds_during (holds_compile (ho.finds s s') host vmName p ids) h
  refine ⟨fun hall c hmem _ => hall c hmem, fun hdemand c hmem => ?_⟩
  cases hc : c.kind.isOnDemand with
  | true => exact hdemand c hmem hc
  | false => exact (hassembled spec rfl).allows_driver hbridges hmem hc

/-- A tablet behind a USB controller and a root port that the hypervisor has. -/
theorem hasDevice_controllers_iff_tablet :
    let caps : CapabilitySet :=
      ⟨some (.release 8 2 0), [], ["pcie-root-port", "qemu-xhci", "usb-tablet"], []⟩
    let o : Oracle (StateM Unit) := caps.oracle
    let p : Parameters := .ofList [("usb_devices", "t"), ("vga", "none")]
    ∃ spec ids,
      Oracle.runFrom (compile o (default : Host) "vm" p IdSource.counting) () =
        ((.ok spec, ids), ()) ∧
      spec.controllers.map Controller.driver = ["pcie-root-port", "qemu-xhci"] ∧
      ∀ c ∈ spec.controllers, (o.answers ()).hasDevice c.driver = true := by
  intro caps o p
  have hdrivers :
      (Oracle.runFrom (compile o (default : Host) "vm" p IdSource.counting) ()).1.1.toOption.map
        (fun spec => spec.controllers.map Controller.driver) =
        some ["pcie-root-port", "qemu-xhci"] := by decide +kernel
  obtain ⟨spec, ids, hrun, hdrivers⟩ := exists_run_of_map_toOption hdrivers
  have hnames : ["pcie-root-port", "qemu-xhci"] ⊆ caps.devices := by decide
  have hiff := hasDevice_controllers_iff o caps.steady_oracle (default : Host) "vm" p
    IdSource.counting ids () () spec hrun rfl rfl
  refine ⟨spec, ids, hrun, hdrivers, hiff.2 fun c hc _ => List.contains_iff_mem.2 (hnames ?_)⟩
  rw [← hdrivers]
  exact List.mem_map_of_mem hc

/-- A tablet for which a USB controller is inserted that the hypervisor does not have. The same
controller is refused when it is asked for. -/
theorem exists_controller_without_device :
    let caps : CapabilitySet := ⟨some (.release 8 2 0), [], ["usb-tablet"], []⟩
    let o : Oracle (StateM Unit) := caps.oracle
    let p : Parameters := .ofList [("usb_devices", "t"), ("vga", "none")]
    let asking : Parameters := .ofList [("usbs", "usb0"), ("usb_devices", "t"), ("vga", "none")]
    (o.answers ()).probe .pcieRootPort = (o.answers ()).hasDevice "pcie-root-port" ∧
      (o.answers ()).probe .pciePciBridge = (o.answers ()).hasDevice "pcie-pci-bridge" ∧
      (∃ spec ids,
        Oracle.runFrom (compile o (default : Host) "vm" p IdSource.counting) () =
          ((.ok spec, ids), ()) ∧
          ∃ c ∈ spec.controllers, (o.answers ()).hasDevice c.driver = false) ∧
      (Oracle.runFrom (compile o (default : Host) "vm" asking IdSource.counting) ()).1.1 =
        .error (.noDevice "qemu-xhci") := by
  intro caps o p asking
  have hlacking :
      (Oracle.runFrom (compile o (default : Host) "vm" p IdSource.counting) ()).1.1.toOption.map
        (fun spec => spec.controllers.any fun c => !(o.answers ()).hasDevice c.driver) =
        some true := by decide +kernel
  obtain ⟨spec, ids, hrun, hlacking⟩ := exists_run_of_map_toOption hlacking
  obtain ⟨c, hc, hnot⟩ := List.any_eq_true.1 hlacking
  refine ⟨rfl, rfl, ⟨spec, ids, hrun, c, hc, ?_⟩, ?_⟩
  · simpa using hnot
  · decide +kernel

end GuestSpec

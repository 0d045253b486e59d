import GuestSpec.Proofs.Compile.References
import GuestSpec.Proofs.Compile.Seating
import GuestSpec.Proofs.Device.Leases
import GuestSpec.Proofs.Oracle.Steady

/-!
# Leases in a document

The ports and context ids of a document are those that were handed out when it was compiled, so no
two channels share a port and no two vsock devices share a context id. A context id that is looked
for is one that a guest may have. One that is asked for is only kept from being too low: the largest
number, which stands for any context id, is handed out like others.
-/

namespace GuestSpec

open Guarantee

namespace InstanceSpec

def tcpPorts (s : InstanceSpec) : List UInt16 := s.chardevs.filterMap Chardev.tcpPort?

def guestCids (s : InstanceSpec) : List UInt32 := s.allDevices.filterMap DeviceNode.guestCid?

/-- What a document holds is what was leased for it. -/
structure Leased (p : Parameters) (ls : List Lease) (s : InstanceSpec) : Prop where
  ports : s.tcpPorts = ls.filterMap Lease.port?
  cids : s.devices.filterMap DeviceNode.guestCid? = ls.filterMap Lease.cid?
  allowed : List.Forall₂ p.AllowsCid (p.objects "vsocks") (ls.filterMap Lease.cid?)

end InstanceSpec

/-! ## Plans -/

namespace Plan

variable {m : Type → Type} [Monad m] [LawfulMonad m] {H I : Type} [Identifiers I]
  {G : Guarantee m} {t : Target m} {K : Findings}

theorem leased_guestUuid (p : Parameters) :
    (G.granting H I).Holds (guestUuid p) fun _ ls => ls = [] := by
  unfold guestUuid
  split
  · exact granting_identifier _
  · split
    · exact (G.granting H I).ret rfl
    · exact granting_throw _

theorem leased_build [HostResources H] [LawfulHost H] (hK : G.Finds t.oracle K) (vmName : String)
    (p : Parameters) :
    (G.granting H I).Holds (build vmName p t) fun plan ls =>
      DeviceParts.Leased p (p.objects "vsocks") ls ⟨plan.devices.devices, plan.devices.objects,
        plan.monitors.map Prod.snd ++ plan.devices.chardevs⟩ := by
  refine (G.granting H I).bind_quiet (granting_lift (Board.holds_firmware hK p)) fun firmware => ?_
  refine granting_bind_attempt fun machine _ => ?_
  refine (G.granting H I).bind_quiet (granting_lift (Board.holds_cpu hK p)) fun cpu => ?_
  refine (G.granting H I).bind_quiet (granting_leasing Granting.memoryMib_leases) fun hostMib => ?_
  refine (G.granting H I).bind_quiet (granting_lift (MemoryPlan.holds_build hK p _))
    fun memory => ?_
  refine (G.granting H I).bind_quiet (granting_lift (Storage.holds_build hK p)) fun storage => ?_
  refine (G.granting H I).bind (granting_leasing (Monitor.leased_buildAll p vmName p))
    fun monitors => ?_
  refine (G.granting H I).bind (DevicePlan.leased_build hK vmName p) fun devices => ?_
  refine (G.granting H I).bind_quiet (leased_guestUuid p) fun uuid => (G.granting H I).ret ?_
  intro ls hdevices ls' hmonitors
  rw [List.append_nil]
  exact hmonitors.append hdevices

theorem seatedAs_devices (plan : Plan) : alloc.Holds plan.place fun placed =>
    List.Forall₂ UnplacedDevice.SeatedAs plan.devices.devices placed.devices := by
  rw [place_eq]
  refine alloc.bind plan.seatedAs_seat fun placed => ?_
  exact alloc.bind alloc_trivial fun indices => alloc.ret fun _ h => h.devices

theorem leased_of_assemble {plan : Plan} {ls : List Lease} {p : Parameters}
    (h : DeviceParts.Leased p (p.objects "vsocks") ls ⟨plan.devices.devices, plan.devices.objects,
      plan.monitors.map Prod.snd ++ plan.devices.chardevs⟩)
    {vmName : String} {a : BusAllocator} {spec : InstanceSpec}
    (hspec : plan.assemble vmName a = .ok spec) : spec.Leased p ls := by
  obtain ⟨placed, b, hplace, rfl⟩ := exists_outcome_of_assemble hspec
  have hseated := plan.seatedAs_devices a placed (congrArg Prod.fst hplace)
  have hcids : placed.devices.map DeviceNode.guestCid? =
      plan.devices.devices.map (·.node.guestCid?) :=
    map_eq_of_forall₂ (hseated.imp fun d d' hd => by
      rw [DeviceNode.guestCid?, hd.props, DeviceNode.guestCid?])
  have hheld := congrArg (List.filterMap id) hcids
  rw [List.filterMap_map, List.filterMap_map] at hheld
  exact ⟨h.ports, hheld.trans h.cids, h.allowed⟩

end Plan

/-! ## Compilations -/

section Compilations

variable {m : Type → Type} [Monad m] [LawfulMonad m] {H I : Type} [HostResources H]
  [LawfulHost H] [Identifiers I] {G : Guarantee m} {o : Oracle m} {K : Findings}

theorem leased_compiling (hK : G.Finds o K) (vmName : String) (p : Parameters) :
    (G.granting H I).Holds (compiling o vmName p) fun spec ls => spec.Leased p ls := by
  refine granting_bind_attempt fun t ht => ?_
  obtain rfl : t.oracle = o := attempt_parameters (oracle_of_ofParameters o p) t ht
  refine (G.granting H I).bind_quiet (granting_lift (G.except_lift (hK .version))) fun _ => ?_
  refine (G.granting H I).bind_quiet (granting_lift (Plan.holds_allocatorConfig hK p))
    fun config => ?_
  refine (G.granting H I).bind (Plan.leased_build hK vmName p) fun plan => ?_
  refine (G.granting H I).mono (granting_attempt _) fun spec ls' h ls hplan => ?_
  obtain ⟨rfl, hspec⟩ := h
  rw [List.append_nil]
  exact Plan.leased_of_assemble hplan hspec

/-- A document holds what was handed out in the course of its compilation, none of it twice. -/
theorem leased_compile (hK : G.Finds o K) (host : H) (vmName : String) (p : Parameters)
    (ids : I) :
    G.Holds (compile o host vmName p ids) fun r =>
      ∀ spec, r.1 = .ok spec → ∃ ls, ls.Nodup ∧ spec.Leased p ls := by
  refine G.bind (leased_compiling hK vmName p _) fun r => G.ret fun h spec hspec => ?_
  obtain ⟨gs, hgs, hleased⟩ := h spec hspec
  exact ⟨_, hgs.nodup_of_start, hleased⟩

end Compilations

theorem InstanceSpec.Linked.guestCids_eq {spec : InstanceSpec} (h : spec.Linked) :
    spec.guestCids = spec.devices.filterMap DeviceNode.guestCid? := by
  have hnone : ∀ d ∈ spec.storage.map Disk.device ++ spec.network.map Nic.device ++
      spec.memory.devices.map MemoryDevice.device, d.guestCid? = none := by
    intro d hd
    simp only [List.mem_append, List.mem_map] at hd
    obtain (⟨disk, hdisk, rfl⟩ | ⟨nic, hnic, rfl⟩) | ⟨mem, hmem, rfl⟩ := hd
    · obtain ⟨props, hprops, -⟩ := (h.disks disk hdisk).drive
      rw [DeviceNode.guestCid?, hprops]
    · obtain ⟨props, hprops, -⟩ := h.nics nic hnic
      rw [DeviceNode.guestCid?, hprops]
    · have hmemdev := h.memory mem hmem
      rw [DeviceNode.guestCid?]
      split
      · next hprops =>
        rw [hprops] at hmemdev
        cases hmemdev
      · rfl
  rw [guestCids, allDevices, List.filterMap_append, List.filterMap_eq_nil_iff.2 hnone,
    List.nil_append]

/-! ## Context ids that a guest may have -/

theorem Parameters.AllowsCid.le_lastCid_iff {p : Parameters} {name : String} {cid : UInt32}
    (h : p.AllowsCid name cid) :
    (p.scopedTo name).uint32? "guest_cid" ≠ .ok (some 0xFFFFFFFF) ↔ cid ≤ Host.lastCid := by
  obtain hgiven | ⟨hgiven, hlast⟩ := h.chosen
  · rw [hgiven, ne_eq, Except.ok.injEq, Option.some.injEq, UInt32.le_iff_toNat_le,
      ← UInt32.toNat_inj]
    have hlt := cid.toNat_lt
    change cid.toNat ≠ 0xFFFFFFFF ↔ cid.toNat ≤ 0xFFFFFFFE
    omega
  · rw [hgiven]
    exact iff_of_true (fun heq => nomatch Except.ok.inj heq) hlast

theorem forall_mem_iff_of_forall₂ {α β : Type} {R : α → β → Prop} {P : α → Prop} {Q : β → Prop}
    (hPQ : ∀ x y, R x y → (P x ↔ Q y)) {xs : List α} {ys : List β} (h : List.Forall₂ R xs ys) :
    (∀ x ∈ xs, P x) ↔ ∀ y ∈ ys, Q y := by
  induction h with
  | nil => simp
  | cons hxy _ ih => rw [List.forall_mem_cons, List.forall_mem_cons, hPQ _ _ hxy, ih]

section Documents

variable {σ H I : Type} [HostResources H] [LawfulHost H] [Identifiers I]

theorem exists_leased_of_run (o : Oracle (StateM σ)) {host : H} {vmName : String}
    {p : Parameters} {ids ids' : I} {s s' : σ} {spec : InstanceSpec}
    (h : Oracle.runFrom (compile o host vmName p ids) s = ((.ok spec, ids'), s')) :
    ∃ ls : List Lease, ls.Nodup ∧ spec.tcpPorts = ls.filterMap Lease.port? ∧
      spec.guestCids = ls.filterMap Lease.cid? ∧
      List.Forall₂ p.AllowsCid (p.objects "vsocks") spec.guestCids := by
  have hfinds : (o.during s s').Finds o (o.told s s') := Oracle.finds_told o s s'
  have hlinked := (Oracle.holds_during (holds_compile hfinds host vmName p ids) h spec rfl).linked
  obtain ⟨ls, hls, hleased⟩ :=
    Oracle.holds_during (leased_compile hfinds host vmName p ids) h spec rfl
  have hcids := hlinked.guestCids_eq.trans hleased.cids
  exact ⟨ls, hls, hleased.ports, hcids, hcids ▸ hleased.allowed⟩

omit [HostResources H] [LawfulHost H] [Identifiers I] in
/-- Requests to a fixed host are answered in an orderly way. Since all requests of a compilation go
to the same leases, the TCP channels of a document have different ports and its vsock devices have
different context ids, on whatever host it was made. -/
theorem leases_apart :
    (∀ (host : Host) (rs : List LeaseRequest), host.Orderly rs) ∧
      ∀ {σ H I : Type} [HostResources H] [LawfulHost H] [Identifiers I] (o : Oracle (StateM σ))
        (host : H) (vmName : String) (p : Parameters) (ids ids' : I) (s s' : σ)
        (spec : InstanceSpec),
        Oracle.runFrom (compile o host vmName p ids) s = ((.ok spec, ids'), s') →
          spec.tcpPorts.Nodup ∧ spec.guestCids.Nodup := by
  refine ⟨Host.orderly, fun o host vmName p ids ids' s s' spec h => ?_⟩
  obtain ⟨ls, hls, hports, hcids, -⟩ := exists_leased_of_run o h
  rw [hports, hcids]
  exact ⟨Lease.nodup_ports hls, Lease.nodup_cids hls⟩

/-- Two monitors, a serial port and a source of random numbers, on a host whose first port is busy;
the serial port asks for the port that the second monitor would otherwise have. -/
theorem leases_apart_monitors :
    let caps : CapabilitySet := ⟨some (.release 8 2 0), [], ["isa-serial", "virtio-rng-pci",
      "pcie-root-port"], ["rng-egd"]⟩
    let o : Oracle (StateM Unit) := caps.oracle
    let host : Host := ⟨16384, [(5000, 5000)], []⟩
    let p : Parameters := .ofList [("monitors", "a b"), ("chardev_backend", "tcp_socket"),
      ("serials", "s"), ("chardev_port_s", "5003"), ("virtio_rngs", "r"),
      ("backend_rng", "rng-egd"), ("vga", "none")]
    ∃ spec ids,
      Oracle.runFrom (compile o host "vm" p IdSource.counting) () = ((.ok spec, ids), ()) ∧
      spec.tcpPorts = [5001, 5002, 5003, 5004] ∧ spec.tcpPorts.Nodup := by
  intro caps o host p
  have hports : (Oracle.runFrom (compile o host "vm" p IdSource.counting) ()).1.1.toOption.map
      InstanceSpec.tcpPorts = some [5001, 5002, 5003, 5004] := by decide +kernel
  obtain ⟨spec, ids, hrun, hports⟩ := exists_run_of_map_toOption hports
  exact ⟨spec, ids, hrun, hports, (leases_apart.2 o host "vm" p .counting ids () () spec hrun).1⟩

/-- Context ids are never too low. They are ones that a guest may have exactly as long as no vsock
device asks for the largest number, which stands for any context id. -/
theorem guestCids_usable_iff (o : Oracle (StateM σ)) (host : H) (vmName : String)
    (p : Parameters) (ids ids' : I) (s s' : σ) (spec : InstanceSpec)
    (h : Oracle.runFrom (compile o host vmName p ids) s = ((.ok spec, ids'), s')) :
    (∀ cid ∈ spec.guestCids, 3 ≤ cid) ∧
      ((∀ cid ∈ spec.guestCids, cid ≤ 0xFFFFFFFE) ↔
        ∀ name ∈ p.objects "vsocks",
          (p.scopedTo name).uint32? "guest_cid" ≠ .ok (some 0xFFFFFFFF)) := by
  obtain ⟨ls, -, -, -, hallowed⟩ := exists_leased_of_run o h
  refine ⟨fun cid hcid => ?_, ?_⟩
  · obtain ⟨name, -, hname⟩ := exists_of_forall₂ hallowed cid hcid
    exact hname.low
  · exact (forall_mem_iff_of_forall₂ (fun _ _ hcid => hcid.le_lastCid_iff) hallowed).symm

/-- Two vsock devices, one of which asks for the context id that would be found for the other. -/
theorem guestCids_usable_iff_two :
    let caps : CapabilitySet :=
      ⟨some (.release 8 2 0), [], ["vhost-vsock-pci", "pcie-root-port"], []⟩
    let o : Oracle (StateM Unit) := caps.oracle
    let p : Parameters :=
      .ofList [("vsocks", "v w"), ("guest_cid_v", "3"), ("vga", "none")]
    ∃ spec ids,
      Oracle.runFrom (compile o (default : Host) "vm" p IdSource.counting) () =
        ((.ok spec, ids), ()) ∧
      spec.guestCids = [3, 4] ∧ ∀ cid ∈ spec.guestCids, 3 ≤ cid ∧ cid ≤ 0xFFFFFFFE := by
  intro caps o p
  have hcids :
      (Oracle.runFrom (compile o (default : Host) "vm" p IdSource.counting) ()).1.1.toOption.map
        InstanceSpec.guestCids = some [3, 4] := by decide +kernel
  obtain ⟨spec, ids, hrun, hcids⟩ := exists_run_of_map_toOption hcids
  obtain ⟨hlow, hiff⟩ := guestCids_usable_iff o (default : Host) "vm" p IdSource.counting ids () ()
    spec hrun
  have hnames : ∀ name ∈ p.objects "vsocks",
      (p.scopedTo name).uint32? "guest_cid" ≠ .ok (some 0xFFFFFFFF) := by decide +kernel
  exact ⟨spec, ids, hrun, hcids, fun cid hcid => ⟨hlow cid hcid, hiff.2 hnames cid hcid⟩⟩

/-- A vsock device that asks for the largest number gets it. -/
theorem exists_guestCid_of_any :
    let caps : CapabilitySet :=
      ⟨some (.release 8 2 0), [], ["vhost-vsock-pci", "pcie-root-port"], []⟩
    let o : Oracle (StateM Unit) := caps.oracle
    let p : Parameters :=
      .ofList [("vsocks", "v"), ("guest_cid", "4294967295"), ("vga", "none")]
    ∃ spec ids,
      Oracle.runFrom (compile o (default : Host) "vm" p IdSource.counting) () =
        ((.ok spec, ids), ()) ∧
      spec.guestCids = [0xFFFFFFFF] ∧ ¬ ∀ cid ∈ spec.guestCids, cid ≤ 0xFFFFFFFE := by
  intro caps o p
  have hcids :
      (Oracle.runFrom (compile o (default : Host) "vm" p IdSource.counting) ()).1.1.toOption.map
        InstanceSpec.guestCids = some [0xFFFFFFFF] := by decide +kernel
  obtain ⟨spec, ids, hrun, hcids⟩ := exists_run_of_map_toOption hcids
  refine ⟨spec, ids, hrun, hcids, ?_⟩
  rw [hcids, List.forall_mem_singleton]
  decide +kernel

end Documents

end GuestSpec

import GuestSpec.Proofs.Compile.Placing
import GuestSpec.Proofs.Device.Parts
import GuestSpec.Proofs.Machine.Board
import GuestSpec.Proofs.Machine.Memory
import GuestSpec.Proofs.Storage.Images

/-!
# From plans to documents

What holds of each part of a plan holds of the plan that a compilation makes. Placing the plan adds
places and indices of the boot order to its devices and changes nothing else about them, and to the
buses it does what some calls do.
-/

namespace GuestSpec

open Guarantee Alloc BusAllocator

/-! ## Plans -/

/-- What holds of a plan when all answers are possible ones. -/
structure Plan.Planned (K : Findings) (plan : Plan) : Prop where
  firmware : plan.firmware.Planned K
  flash : plan.machine.FlashedWith plan.firmware
  cpu : plan.cpu.Planned K
  memory : plan.memory.Planned K
  storage : plan.storage.Planned K
  monitors : ∀ r ∈ plan.monitors, r.1.chardev = r.2.id
  devices : plan.devices.Planned K

structure AllocatorConfig.Planned (K : Findings) (c : AllocatorConfig) : Prop where
  rootPorts : K.allows (.probe .pcieRootPort) c.rootPorts
  pciePciBridge : K.allows (.probe .pciePciBridge) c.pciePciBridge

/-- A document is that of a plan whose devices are placed on the buses of a machine. -/
def InstanceSpec.Assembled (K : Findings) (vmName : String) (spec : InstanceSpec) : Prop :=
  ∃ (machineType : String) (config : AllocatorConfig) (plan : Plan),
    config.Planned K ∧ plan.Planned K ∧
      plan.assemble vmName (.start plan.machine.family machineType config) = .ok spec

theorem oracle_of_ofParameters {m : Type → Type} (o : Oracle m) (p : Parameters) :
    attempt.Holds (Target.ofParameters o p) fun t => t.oracle = o := by
  intro t ht
  unfold Target.ofParameters at ht
  dsimp only at ht
  split at ht
  · rw [← Except.ok.inj ht]
  · cases ht

section Answers

variable {m : Type → Type} [Monad m] [LawfulMonad m] {H I : Type} [Identifiers I]
  {G : Guarantee m} {t : Target m} {K : Findings}

namespace Plan

theorem holds_guestUuid (p : Parameters) :
    (G.compiling H I).Holds (guestUuid p) fun _ => True := by
  unfold guestUuid
  split
  · exact compiling_identifier
  · split
    · exact (G.compiling H I).ret trivial
    · exact G.state.except_throw

variable (hK : G.Finds t.oracle K)

include hK

theorem holds_allocatorConfig (p : Parameters) :
    G.build.Holds (allocatorConfig p t) fun config => config.Planned K := by
  refine G.build.bind (holds_probe hK _) fun rootPorts => ?_
  refine G.build.bind (holds_probe hK _) fun bridge => ?_
  refine G.bind_parameters fun targets _ => G.bind_parameters fun luns _ => ?_
  exact G.build.ret fun hbridge hrootPorts => ⟨hrootPorts, hbridge⟩

theorem holds_build [HostResources H] (vmName : String) (p : Parameters) :
    (G.compiling H I).Holds (build vmName p t) fun plan =>
      plan.Planned K ∧ plan.machine.family = t.family := by
  refine (G.compiling H I).bind (compiling_lift (Board.holds_firmware hK p)) fun firmware => ?_
  refine G.state.bind_attempt fun machine hmachine => ?_
  refine (G.compiling H I).bind (compiling_lift (Board.holds_cpu hK p)) fun cpu => ?_
  refine (G.compiling H I).bind compiling_leasing_trivial fun hostMib => ?_
  refine (G.compiling H I).bind (compiling_lift (MemoryPlan.holds_build hK p _)) fun memory => ?_
  refine (G.compiling H I).bind (compiling_lift (Storage.holds_build hK p)) fun storage => ?_
  refine (G.compiling H I).bind (compiling_leasing (Monitor.chardev_eq_of_buildAll vmName p))
    fun monitors => ?_
  refine (G.compiling H I).bind (DevicePlan.holds_build hK vmName p) fun devices => ?_
  refine (G.compiling H I).bind (holds_guestUuid p) fun uuid => (G.compiling H I).ret ?_
  intro _ hdevices hmonitors hstorage hmemory _ hcpu hfirmware
  obtain ⟨hfamily, hnodes⟩ := Board.flashNodes_of_machine p t firmware machine hmachine
  exact ⟨{
    firmware := hfirmware
    flash := Board.flashedWith_of_flashNodes hfirmware hnodes
    cpu := hcpu
    memory := hmemory
    storage := hstorage
    monitors := hmonitors
    devices := hdevices }, hfamily⟩

end Plan

/-- Every compilation makes a plan of what the hypervisor has and places its devices. -/
theorem holds_compiling [HostResources H] {o : Oracle m} (hK : G.Finds o K) (vmName : String)
    (p : Parameters) :
    (G.compiling H I).Holds (compiling o vmName p) (InstanceSpec.Assembled K vmName) := by
  refine G.state.bind_attempt fun t ht => ?_
  obtain rfl : t.oracle = o := attempt_parameters (oracle_of_ofParameters o p) t ht
  refine (G.compiling H I).bind (compiling_lift (G.except_lift (hK .version))) fun _ => ?_
  refine (G.compiling H I).bind (compiling_lift (Plan.holds_allocatorConfig hK p)) fun config => ?_
  refine (G.compiling H I).bind (Plan.holds_build hK vmName p) fun plan => ?_
  intro s
  refine G.ret fun spec hspec hplan hconfig _ => ?_
  refine ⟨t.machineType, config, plan, hconfig, hplan.1, ?_⟩
  rw [hplan.2]
  exact hspec

/-- Every document that a compilation gives is the document of a plan. -/
theorem holds_compile [HostResources H] {o : Oracle m} (hK : G.Finds o K) (host : H)
    (vmName : String) (p : Parameters) (ids : I) :
    G.Holds (compile o host vmName p ids) fun r =>
      ∀ spec, r.1 = .ok spec → spec.Assembled K vmName :=
  G.bind (holds_compiling hK vmName p _) fun _ => G.ret fun h => h

end Answers

/-! ## Results -/

section Results

variable {ε α β γ : Type} {f : α → β} {b : β}

theorem exists_ok_of_map_toOption {r : Except ε α} (h : r.toOption.map f = some b) :
    ∃ a, r = .ok a ∧ f a = b := by
  cases r with
  | error e => cases h
  | ok a => exact ⟨a, rfl, Option.some.inj h⟩

theorem exists_run_of_map_toOption {r : (Except ε α × γ) × Unit}
    (h : r.1.1.toOption.map f = some b) : ∃ a c, r = ((.ok a, c), ()) ∧ f a = b := by
  obtain ⟨⟨result, c⟩, ⟨⟩⟩ := r
  obtain ⟨a, rfl, hf⟩ := exists_ok_of_map_toOption h
  exact ⟨a, c, rfl, hf⟩

end Results

/-! ## Placed devices -/

/-- Properties that differ in nothing but the index in the boot order. -/
inductive DeviceProps.Indexed : DeviceProps → DeviceProps → Prop where
  | same (p : DeviceProps) : Indexed p p
  | disk (p : DiskProps) (index : Option UInt32) :
    Indexed (.disk p) (.disk { p with bootindex := index })
  | nic (p : NicProps) (index : Option UInt32) :
    Indexed (.nic p) (.nic { p with bootindex := index })

structure DeviceNode.Becomes (d d' : DeviceNode) : Prop where
  driver : d'.driver = d.driver
  props : d.props.Indexed d'.props

theorem DeviceProps.Indexed.trans {p q r : DeviceProps} (h : p.Indexed q) (h' : q.Indexed r) :
    p.Indexed r := by
  cases h with
  | same => exact h'
  | disk p i =>
    cases h' with
    | same => exact .disk p i
    | disk _ j => exact .disk p j
  | nic p i =>
    cases h' with
    | same => exact .nic p i
    | nic _ j => exact .nic p j

theorem DeviceProps.Indexed.eq_of_disk {p : DiskProps} {q : DeviceProps}
    (h : (DeviceProps.disk p).Indexed q) : ∃ p' : DiskProps, q = .disk p' ∧ p'.drive = p.drive := by
  cases h with
  | same => exact ⟨p, rfl, rfl⟩
  | disk _ index => exact ⟨_, rfl, rfl⟩

theorem DeviceProps.Indexed.eq_of_nic {p : NicProps} {q : DeviceProps}
    (h : (DeviceProps.nic p).Indexed q) : ∃ p' : NicProps, q = .nic p' ∧ p'.netdev = p.netdev := by
  cases h with
  | same => exact ⟨p, rfl, rfl⟩
  | nic _ index => exact ⟨_, rfl, rfl⟩

theorem DeviceProps.Indexed.eq_or {p q : DeviceProps} (h : p.Indexed q) :
    q = p ∨ (∃ r, q = .disk r) ∨ ∃ r, q = .nic r := by
  cases h with
  | same => exact .inl rfl
  | disk r index => exact .inr (.inl ⟨_, rfl⟩)
  | nic r index => exact .inr (.inr ⟨_, rfl⟩)

theorem DeviceProps.Indexed.memdev?_eq {p q : DeviceProps} (h : p.Indexed q) :
    q.memdev? = p.memdev? := by
  cases h <;> rfl

theorem DeviceProps.isPlain_of_memdev? {p : DeviceProps} {id : String} (h : p.memdev? = some id) :
    p.isPlain = true := by
  cases p with
  | dimm | virtioMem => rfl
  | _ => cases h

theorem DeviceNode.becomes_withIndex (d : DeviceNode) (index : Option UInt32) :
    d.Becomes (Plan.withIndex d index) := by
  cases index with
  | none => exact ⟨rfl, .same _⟩
  | some index =>
    rw [Plan.withIndex, setBootindex]
    split
    · next p hp => exact ⟨rfl, hp ▸ .disk p (some index)⟩
    · next p hp => exact ⟨rfl, hp ▸ .nic p (some index)⟩
    · exact ⟨rfl, .same _⟩

theorem DeviceNode.Becomes.withIndex {d d' : DeviceNode} (h : d.Becomes d')
    (index : Option UInt32) : d.Becomes (Plan.withIndex d' index) := by
  have h' := d'.becomes_withIndex index
  exact ⟨h'.driver.trans h.driver, h.props.trans h'.props⟩

namespace Plan

/-- The placed devices come from those of a plan. -/
structure PlacedFrom (plan : Plan) (placed : Placed) : Prop where
  memory : ∀ d' ∈ placed.memory, ∃ d ∈ plan.memory.devices,
    d'.backend = d.backend ∧ d.device.node.Becomes d'.device
  disks : ∀ d' ∈ placed.disks, ∃ d ∈ plan.storage.disks,
    d'.backend = d.backend ∧ d.device.node.Becomes d'.device
  nics : ∀ n' ∈ placed.nics, ∃ n ∈ plan.devices.nics,
    n'.netdev = n.netdev ∧ n.device.node.Becomes n'.device
  devices : ∀ d' ∈ placed.devices, ∃ d ∈ plan.devices.devices, d.node.Becomes d'

theorem alloc_trivial {α : Type} {x : Alloc α} : alloc.Holds x fun _ => True :=
  fun _ _ _ => trivial

theorem becomes_of_place (d : UnplacedDevice) : alloc.Holds d.place d.node.Becomes :=
  alloc.bind alloc_trivial fun _ => alloc.ret fun _ => ⟨rfl, .same _⟩

theorem exists_of_mem_zipWith {α β γ : Type} {f : α → β → γ} {xs : List α} {ys : List β} {z : γ}
    (h : z ∈ xs.zipWith f ys) : ∃ x ∈ xs, ∃ y, z = f x y := by
  induction xs generalizing ys with
  | nil => exact nomatch h
  | cons x xs ih =>
    cases ys with
    | nil => exact nomatch h
    | cons y ys =>
      obtain rfl | h := List.mem_cons.1 h
      · exact ⟨x, List.mem_cons_self, y, rfl⟩
      · obtain ⟨x', hx', y', rfl⟩ := ih h
        exact ⟨x', List.mem_cons_of_mem _ hx', y', rfl⟩

theorem placedFrom_of_place (plan : Plan) : alloc.Holds plan.place plan.PlacedFrom := by
  refine alloc.bind alloc_trivial fun _ => ?_
  refine alloc.bind (alloc.mapM_from (R := fun d d' =>
    d'.backend = d.backend ∧ d.device.node.Becomes d'.device) (fun d => ?_) _) fun memory => ?_
  · exact alloc.bind (becomes_of_place d.device) fun _ => alloc.ret fun h => ⟨rfl, h⟩
  refine alloc.bind (alloc.mapM_from (R := fun d d' =>
    d'.backend = d.backend ∧ d.device.node.Becomes d'.device) (fun d => ?_) _) fun disks => ?_
  · exact alloc.bind (becomes_of_place d.device) fun _ => alloc.ret fun h => ⟨rfl, h⟩
  refine alloc.bind (alloc.mapM_from (R := fun n n' =>
    n'.netdev = n.netdev ∧ n.device.node.Becomes n'.device) (fun n => ?_) _) fun nics => ?_
  · exact alloc.bind (becomes_of_place n.device) fun _ => alloc.ret fun h => ⟨rfl, h⟩
  refine alloc.bind (alloc.mapM_from becomes_of_place _) fun devices => ?_
  refine alloc.bind alloc_trivial fun indices => alloc.ret ?_
  intro _ hdevices hnics hdisks hmemory _
  refine ⟨hmemory, fun d' hd' => ?_, fun n' hn' => ?_, hdevices⟩
  · obtain ⟨d₀, hd₀, i, rfl⟩ := exists_of_mem_zipWith hd'
    obtain ⟨d, hd, hbackend, hnode⟩ := hdisks d₀ hd₀
    exact ⟨d, hd, hbackend, hnode.withIndex i⟩
  · obtain ⟨n₀, hn₀, i, rfl⟩ := exists_of_mem_zipWith hn'
    obtain ⟨n, hn, hnetdev, hnode⟩ := hnics n₀ hn₀
    exact ⟨n, hn, hnetdev, hnode.withIndex i⟩

/-- Disks, network cards and memory devices refer to nothing but their own backends, and they are
of models that the hypervisor has. -/
theorem plain_of_mem_sections {K : Findings} {plan : Plan} {placed : Placed} (h : plan.Planned K)
    (hplaced : plan.PlacedFrom placed) {d : DeviceNode}
    (hd : d ∈ placed.disks.map Disk.device ++ placed.nics.map Nic.device ++
      placed.memory.map MemoryDevice.device) :
    d.props.isPlain = true ∧ K.allows (.hasDevice d.driver) true := by
  simp only [List.mem_append, List.mem_map] at hd
  obtain (⟨disk, hdisk, rfl⟩ | ⟨nic, hnic, rfl⟩) | ⟨mem, hmem, rfl⟩ := hd
  · obtain ⟨d, hd, -, hnode⟩ := hplaced.disks disk hdisk
    have hplanned := h.storage.disks d hd
    obtain ⟨p, hp, -⟩ := hplanned.attached.drive
    obtain ⟨p', hp', -⟩ := (hp ▸ hnode.props).eq_of_disk
    rw [hp', hnode.driver]
    exact ⟨rfl, hplanned.driver⟩
  · obtain ⟨n, hn, -, hnode⟩ := hplaced.nics nic hnic
    have hplanned := h.devices.nics n hn
    obtain ⟨p, hp, -⟩ := hplanned.netdev
    obtain ⟨p', hp', -⟩ := (hp ▸ hnode.props).eq_of_nic
    rw [hp', hnode.driver]
    exact ⟨rfl, hplanned.driver⟩
  · obtain ⟨d, hd, -, hnode⟩ := hplaced.memory mem hmem
    have hplanned := h.memory.devices d hd
    have hmemdev := hnode.props.memdev?_eq.trans hplanned.memdev
    rw [hnode.driver]
    exact ⟨DeviceProps.isPlain_of_memdev? hmemdev, hplanned.driver⟩

/-! ## Calls -/

def AsksFor (plan : Plan) (model : String) : Prop :=
  ∃ r ∈ plan.devices.usbControllers, r.model = model

/-- The calls that place a plan: the devices in any way, and only USB controllers that the plan
asks for. -/
def Calls (plan : Plan) : BusCall → Prop
  | .place .. => True
  | .addUsb _ model _ _ => plan.AsksFor model

/-- Some calls of a plan lead from some buses to others. -/
def Reached (plan : Plan) (a b : BusAllocator) : Prop :=
  ∃ calls, (∀ call ∈ calls, plan.Calls call) ∧ b = a.afterAll calls

variable {plan : Plan} {a b c : BusAllocator}

theorem Reached.refl (plan : Plan) (a : BusAllocator) : plan.Reached a a :=
  ⟨[], fun _ h => (nomatch h), rfl⟩

theorem Reached.after (h : plan.Reached a b) {call : BusCall} (hcall : plan.Calls call) :
    plan.Reached a (b.after call) := by
  obtain ⟨calls, hcalls, rfl⟩ := h
  refine ⟨calls ++ [call], fun call' hmem => ?_, ?_⟩
  · obtain hmem | hmem := List.mem_append.1 hmem
    · exact hcalls call' hmem
    · exact List.mem_singleton.1 hmem ▸ hcall
  · rw [afterAll_append]
    rfl

theorem ensures_reached (call : BusCall) (hcall : plan.Calls call) (h : plan.Reached a b) :
    Ensures call.perform b (fun _ c => plan.Reached a c) (fun _ _ => True) :=
  ensures_after call (h.after hcall)

theorem ensures_place_reached (d : UnplacedDevice) (h : plan.Reached a b) :
    Ensures d.place b (fun _ c => plan.Reached a c) (fun _ _ => True) :=
  (ensures_reached (.place d.node.id d.request.bus d.request.hint) trivial h).bind fun _ _ hc =>
    ensures_pure hc

/-- Placing a plan does to the buses what some of its calls do. -/
theorem ensures_reached_seat (plan : Plan) (a : BusAllocator) :
    Ensures plan.seat a (fun _ b => plan.Reached a b) (fun _ _ => True) := by
  have hasked : ∀ r ∈ plan.devices.usbControllers, ∀ b, plan.Reached a b →
      Ensures (placeUsbController r) b (fun _ c => plan.Reached a c) (fun _ _ => True) := by
    intro r hr b hb
    have hcall : plan.Calls (.addUsb r.id r.model r.ports r.hint) := ⟨r, hr, rfl⟩
    exact (ensures_reached _ hcall hb).of_bind_pure
  refine (ensures_forM_same hasked (.refl plan a)).bind fun _ b hb => ?_
  refine (ensures_mapM_same (fun d b hb => ?_) _ hb).bind fun memory b hb => ?_
  · exact (ensures_place_reached d.device hb).bind fun _ _ hc => ensures_pure hc
  refine (ensures_mapM_same (fun d b hb => ?_) _ hb).bind fun disks b hb => ?_
  · exact (ensures_place_reached d.device hb).bind fun _ _ hc => ensures_pure hc
  refine (ensures_mapM_same (fun n b hb => ?_) _ hb).bind fun nics b hb => ?_
  · exact (ensures_place_reached n.device hb).bind fun _ _ hc => ensures_pure hc
  exact (ensures_mapM_same (fun d b hb => ensures_place_reached d hb) _ hb).bind
    fun devices b hb => ensures_pure hb

theorem ensures_reached_place (plan : Plan) (a : BusAllocator) :
    Ensures plan.place a (fun _ b => ∃ c, plan.Reached a c ∧ b.parts = c.parts)
      (fun _ _ => True) := by
  rw [place_eq]
  refine (ensures_reached_seat plan a).bind fun _ b hb => ?_
  exact (ensures_bootIndices _).bind fun _ c hc => ensures_pure ⟨b, hb, hc⟩

/-- What a plan becomes: its devices are placed, and the buses and controllers are those that some
of its calls lead to. -/
theorem exists_placed_of_assemble {vmName : String} {spec : InstanceSpec}
    (h : plan.assemble vmName a = .ok spec) :
    ∃ placed b, plan.PlacedFrom placed ∧ plan.Reached a b ∧
      spec = plan.document vmName placed b := by
  obtain ⟨placed, c, hplace, rfl⟩ := exists_outcome_of_assemble h
  obtain ⟨b, hreached, hparts⟩ := (plan.ensures_reached_place a).ok hplace
  refine ⟨placed, b, plan.placedFrom_of_place a placed (congrArg Prod.fst hplace), hreached, ?_⟩
  -- a document says nothing of the boot order that the buses keep
  rw [document, document, hparts]

end Plan

end GuestSpec

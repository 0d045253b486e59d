import GuestSpec.Proofs.Compile.Planned
import GuestSpec.Proofs.Naming.Backends
import Mathlib

/-!
# Seated devices

A compilation plans everything, places all devices, and gives out the boot order. The plan has the
names that the parameters declare, and placing a device adds a place to it and changes nothing else.
-/

namespace GuestSpec

open Guarantee Alloc BusAllocator

/-! ## Names in a plan -/

structure Plan.Labelled (p : Parameters) (plan : Plan) : Prop where
  firmware : plan.firmware.FlashNamed
  memory : plan.memory.Labelled p
  storage : plan.storage.Labelled p
  devices : plan.devices.Labelled p

theorem Plan.labelled_build {m : Type → Type} [Monad m] [LawfulMonad m] {H I : Type}
    [HostResources H] [Identifiers I] {G : Guarantee m} {t : Target m} {K : Findings}
    (hK : G.Finds t.oracle K) (vmName : String) (p : Parameters) :
    (G.compiling H I).Holds (Plan.build vmName p t) fun plan => plan.Labelled p := by
  refine (G.compiling H I).bind (compiling_lift (Board.flashNamed_firmware hK p)) fun firmware => ?_
  refine G.state.bind_attempt fun machine _ => ?_
  refine (G.compiling H I).bind (compiling_lift (Board.holds_cpu hK p)) fun cpu => ?_
  refine (G.compiling H I).bind compiling_leasing_trivial fun hostMib => ?_
  refine (G.compiling H I).bind (compiling_lift (MemoryPlan.labelled_build hK p _)) fun memory => ?_
  refine (G.compiling H I).bind (compiling_lift (Storage.labelled_build hK p)) fun storage => ?_
  refine (G.compiling H I).bind (compiling_leasing (Monitor.chardev_eq_of_buildAll vmName p))
    fun monitors => ?_
  refine (G.compiling H I).bind (DevicePlan.labelled_build hK vmName p) fun devices => ?_
  refine (G.compiling H I).bind (Plan.holds_guestUuid p) fun uuid => (G.compiling H I).ret ?_
  intro _ hdevices _ hstorage hmemory _ _ hfirmware
  exact ⟨hfirmware, hmemory, hstorage, hdevices⟩

/-! ## Placed devices -/

/-- A device and what it is when it is placed: it has a place, and nothing else has changed. -/
def UnplacedDevice.SeatedAs (d : UnplacedDevice) (d' : DeviceNode) : Prop :=
  ∃ placement, d' = { d.node with placement }

structure UnplacedMemoryDevice.SeatedAs (d : UnplacedMemoryDevice) (d' : MemoryDevice) : Prop where
  name : d'.name = d.name
  backend : d'.backend = d.backend
  device : d.device.SeatedAs d'.device

structure UnplacedDisk.SeatedAs (d : UnplacedDisk) (d' : Disk) : Prop where
  name : d'.name = d.name
  backend : d'.backend = d.backend
  device : d.device.SeatedAs d'.device

structure UnplacedNic.SeatedAs (n : UnplacedNic) (n' : Nic) : Prop where
  name : n'.name = n.name
  device : n.device.SeatedAs n'.device

namespace Plan

structure SeatedAs (plan : Plan) (placed : Placed) : Prop where
  memory : List.Forall₂ UnplacedMemoryDevice.SeatedAs plan.memory.devices placed.memory
  disks : List.Forall₂ UnplacedDisk.SeatedAs plan.storage.disks placed.disks
  nics : List.Forall₂ UnplacedNic.SeatedAs plan.devices.nics placed.nics
  devices : List.Forall₂ UnplacedDevice.SeatedAs plan.devices.devices placed.devices

theorem seatedAs_place (d : UnplacedDevice) : alloc.Holds d.place d.SeatedAs :=
  alloc.bind alloc_trivial fun placement => alloc.ret fun _ => ⟨placement, rfl⟩

theorem seatedAs_placeMemory (d : UnplacedMemoryDevice) : alloc.Holds (placeMemory d) d.SeatedAs :=
  alloc.bind (seatedAs_place d.device) fun _ => alloc.ret fun h => ⟨rfl, rfl, h⟩

theorem seatedAs_placeDisk (d : UnplacedDisk) : alloc.Holds (placeDisk d) d.SeatedAs :=
  alloc.bind (seatedAs_place d.device) fun _ => alloc.ret fun h => ⟨rfl, rfl, h⟩

theorem seatedAs_placeNic (n : UnplacedNic) : alloc.Holds (placeNic n) n.SeatedAs :=
  alloc.bind (seatedAs_place n.device) fun _ => alloc.ret fun h => ⟨rfl, h⟩

theorem seatedAs_seat (plan : Plan) : alloc.Holds plan.seat plan.SeatedAs := by
  refine alloc.bind alloc_trivial fun _ => ?_
  refine alloc.bind (alloc.mapM_forall₂ seatedAs_placeMemory _) fun memory => ?_
  refine alloc.bind (alloc.mapM_forall₂ seatedAs_placeDisk _) fun disks => ?_
  refine alloc.bind (alloc.mapM_forall₂ seatedAs_placeNic _) fun nics => ?_
  refine alloc.bind (alloc.mapM_forall₂ seatedAs_place _) fun devices => alloc.ret ?_
  intro hdevices hnics hdisks hmemory _
  exact ⟨hmemory, hdisks, hnics, hdevices⟩

end Plan

/-! ## Before the boot order -/

/-- A guest whose devices are placed but have no place in the boot order. -/
structure Unordered where
  vmName : String
  plan : Plan
  placed : Plan.Placed
  buses : BusAllocator

def Unordered.finish (u : Unordered) : Except CompileError InstanceSpec :=
  match outcome (Plan.bootIndices u.plan.bootable) u.buses with
  | (.ok indices, a) => .ok (u.plan.document u.vmName (u.placed.withIndices indices) a)
  | (.error e, _) => .error e

def Plan.seated (vmName : String) (plan : Plan) (a : BusAllocator) :
    Except CompileError Unordered :=
  match outcome plan.seat a with
  | (.ok placed, b) => .ok ⟨vmName, plan, placed, b⟩
  | (.error e, _) => .error e

/-- All stages of a compilation up to the boot order. -/
def seating {m : Type → Type} [Monad m] {H I : Type} [HostResources H] [Identifiers I]
    (o : Oracle m) (vmName : String) (p : Parameters) : Compiling H I m Unordered := do
  let t ← CompileError.ofParameters (Target.ofParameters o p)
  let _ ← (o.version : m _)
  let config ← (Plan.allocatorConfig p t : Build m _)
  let plan ← Plan.build vmName p t
  plan.seated vmName (.start t.family t.machineType config)

theorem Plan.assemble_eq (vmName : String) (plan : Plan) (a : BusAllocator) :
    plan.assemble vmName a = (plan.seated vmName a).bind Unordered.finish := by
  have hassemble : plan.assemble vmName a = match outcome plan.place a with
    | (.ok placed, b) => .ok (plan.document vmName placed b)
    | (.error e, _) => .error e := rfl
  rw [hassemble, place_eq, outcome_bind, seated]
  cases hseat : outcome plan.seat a with
  | mk r b =>
    cases r with
    | error e => rfl
    | ok placed =>
      simp only [Except.bind, Unordered.finish, outcome_bind]
      cases hboot : outcome (bootIndices plan.bootable) b with
      | mk r c => cases r <;> rfl

section Stages

variable {m : Type → Type} [Monad m] [LawfulMonad m] {H I : Type}

theorem liftM_bind {α β : Type} (x : Except CompileError α) (f : α → Except CompileError β) :
    (liftM (x.bind f) : Compiling H I m β) =
      (liftM x : Compiling H I m α) >>= fun a => liftM (f a) := by
  cases x with
  | error e =>
    apply ExceptT.ext
    rw [ExceptT.run_bind]
    change (pure (Except.error e) : StateT (Supply H I) m (Except CompileError β)) =
      pure (Except.error e) >>= _
    rw [pure_bind]
  | ok a =>
    change (liftM (f a) : Compiling H I m β) = pure a >>= _
    rw [pure_bind]

variable [HostResources H] [Identifiers I]

theorem compiling_eq (o : Oracle m) (vmName : String) (p : Parameters) :
    (compiling o vmName p : Compiling H I m _) =
      seating o vmName p >>= fun u => liftM u.finish := by
  simp only [compiling, seating, bind_assoc, Plan.assemble_eq, liftM_bind]

/-- A compilation is what comes before the boot order, and the boot order. -/
theorem compile_eq (o : Oracle m) (host : H) (vmName : String) (p : Parameters) (ids : I) :
    compile o host vmName p ids = (do
      let (r, supply) ← (seating o vmName p).run.run ⟨.start host, ids⟩
      return (r.bind Unordered.finish, supply.ids)) := by
  rw [compile, compiling_eq, ExceptT.run_bind, StateT.run_bind, bind_assoc]
  congr 1
  funext (r, supply)
  cases r with
  | error e => simp [Except.bind]
  | ok u =>
    change (liftM u.finish : Compiling H I m InstanceSpec).run.run supply >>= _ = _
    have hlift : (liftM u.finish : Compiling H I m InstanceSpec).run.run supply =
        pure (u.finish, supply) := rfl
    rw [hlift, pure_bind]
    rfl

end Stages

/-- A guest whose plan has the declared names and whose devices are all placed on the buses of a
machine. -/
structure Unordered.Ready (p : Parameters) (u : Unordered) : Prop where
  plan : u.plan.Labelled p
  seat : ∃ family machineType config,
    outcome u.plan.seat (.start family machineType config) = (.ok u.placed, u.buses)

theorem Unordered.Ready.seatedAs {p : Parameters} {u : Unordered} (h : u.Ready p) :
    u.plan.SeatedAs u.placed := by
  obtain ⟨family, machineType, config, hseat⟩ := h.seat
  exact u.plan.seatedAs_seat _ u.placed (congrArg Prod.fst hseat)

section Declared

structure Disk.Declared (image : String) (d : Disk) : Prop where
  name : d.name = image
  id : d.device.id = image
  bootable : d.device.Bootable
  backend : d.backend.NamedAfter image

structure Nic.Declared (card : String) (n : Nic) : Prop where
  name : n.name = card
  id : n.device.id = card
  bootable : n.device.Bootable

structure MemoryDevice.Declared (name : String) (d : MemoryDevice) : Prop where
  backend : d.backend.id = "mem-" ++ name
  device : ∃ mark ∈ memoryMarks, d.device.id = mark ++ name
  indexless : d.device.Indexless

namespace UnplacedDevice.SeatedAs

variable {d : UnplacedDevice} {d' : DeviceNode} (h : d.SeatedAs d')

include h

theorem id : d'.id = d.node.id := by
  obtain ⟨placement, rfl⟩ := h
  rfl

theorem props : d'.props = d.node.props := by
  obtain ⟨placement, rfl⟩ := h
  rfl

theorem bootable (hd : d.node.Bootable) : d'.Bootable := by
  obtain ⟨placement, rfl⟩ := h
  exact ⟨hd.kind, hd.none⟩

theorem indexless (hd : d.node.Indexless) : d'.Indexless := by
  obtain ⟨placement, rfl⟩ := h
  exact ⟨hd.none, hd.extra⟩

end UnplacedDevice.SeatedAs

namespace Unordered.Ready

variable {p : Parameters} {u : Unordered} (h : u.Ready p)

include h

theorem disks : List.Forall₂ Disk.Declared p.imageNames u.placed.disks := by
  refine forall₂_comp (fun image d d' hd hseated => ?_) h.plan.storage.disks h.seatedAs.disks
  exact ⟨hseated.name.trans hd.name, hseated.device.id.trans hd.device.id,
    hseated.device.bootable hd.device.bootable, hseated.backend ▸ hd.backend⟩

theorem nics : List.Forall₂ Nic.Declared (p.objects "nics") u.placed.nics := by
  refine forall₂_comp (fun name n n' hn hseated => ?_) h.plan.devices.nics h.seatedAs.nics
  exact ⟨hseated.name.trans hn.1, hseated.device.id.trans hn.2.id,
    hseated.device.bootable hn.2.bootable⟩

theorem memory : List.Forall₂ MemoryDevice.Declared (p.objects "mem_devs") u.placed.memory := by
  refine forall₂_comp (fun name d d' hd hseated => ?_) h.plan.memory.devices h.seatedAs.memory
  refine ⟨hseated.backend ▸ hd.backend, ?_, hseated.device.indexless hd.indexless⟩
  obtain ⟨mark, hmark, hid⟩ := hd.device
  exact ⟨mark, hmark, hseated.device.id.trans hid⟩

end Unordered.Ready

end Declared

theorem ready_of_seated {vmName : String} {p : Parameters} {plan : Plan} (hplan : plan.Labelled p)
    (family : MachineFamily) (machineType : String) (config : AllocatorConfig) :
    attempt.Holds (plan.seated vmName (.start family machineType config)) (Unordered.Ready p) := by
  intro u hu
  rw [Plan.seated] at hu
  cases hseat : outcome plan.seat (.start family machineType config) with
  | mk r b =>
    rw [hseat] at hu
    cases r with
    | error e => cases hu
    | ok placed =>
      obtain rfl := Except.ok.inj hu
      exact ⟨hplan, family, machineType, config, hseat⟩

theorem ready_seating {m : Type → Type} [Monad m] [LawfulMonad m] {H I : Type}
    [HostResources H] [Identifiers I] {G : Guarantee m} {o : Oracle m} {K : Findings}
    (hK : G.Finds o K) (vmName : String) (p : Parameters) :
    (G.compiling H I).Holds (seating o vmName p) (Unordered.Ready p) := by
  refine G.state.bind_attempt fun t ht => ?_
  obtain rfl : t.oracle = o := attempt_parameters (oracle_of_ofParameters o p) t ht
  refine (G.compiling H I).bind (compiling_lift (G.except_lift (hK .version))) fun _ => ?_
  refine (G.compiling H I).bind (compiling_lift (Plan.holds_allocatorConfig hK p)) fun config => ?_
  refine (G.compiling H I).bind (Plan.labelled_build hK vmName p) fun plan s => ?_
  refine G.ret fun u hu hplan _ _ => ?_
  exact ready_of_seated hplan _ _ _ u hu

end GuestSpec

import GuestSpec.Device.Plan
import GuestSpec.Machine.Board
import GuestSpec.Machine.Memory
import GuestSpec.Storage.Plan

/-!
# Compilation

Turns parameters into the document of a guest. First everything is planned; then all devices are
placed in one fixed order: USB controllers, memory, disks, network cards and the rest. Places in
the boot order are given out last, explicit ones first, so that none of them is taken by a device
that accepts any.
-/

namespace GuestSpec

/-- All parts of a guest before anything is placed. -/
structure Plan where
  uuid : Uuid
  machine : Machine
  firmware : Firmware
  cpu : Cpu
  memory : MemoryPlan
  storage : StoragePlan
  monitors : List (Monitor × Chardev)
  devices : DevicePlan

namespace Plan

variable {m : Type → Type} [Monad m] {H I : Type} [Identifiers I]

def allocatorConfig (p : Parameters) (t : Target m) : Build m AllocatorConfig := do
  let rootPorts ← t.probe .pcieRootPort
  let bridge ← t.probe .pciePciBridge
  let targets ← p.uint16? "scsi_hba_max_targets"
  let luns ← p.uint16? "scsi_hba_max_luns"
  return ⟨rootPorts, bridge, targets, luns⟩

/-- The UUID of a guest: the one that is given, or a new one. -/
def guestUuid (p : Parameters) : Compiling H I m Uuid := do
  match p.get? "vm_uuid" with
  | none => Compiling.identifier Identifiers.uuid
  | some raw =>
    match Uuid.ofText? raw with
    | some u => return u
    | none => throw (.invalid "vm_uuid" raw "a UUID")

def build [HostResources H] (vmName : String) (p : Parameters) (t : Target m) :
    Compiling H I m Plan := do
  let firmware ← (Board.firmware p t : Build m _)
  let machine ← Board.machine p t firmware
  let cpu ← (Board.cpu p t : Build m _)
  let hostMib ← Compiling.leasing fun l => .ok l.memoryMib
  let memory ← (MemoryPlan.build p t hostMib : Build m _)
  let storage ← (Storage.build p t : Build m _)
  let monitors ← Compiling.leasing (Monitor.buildAll vmName p)
  let devices ← DevicePlan.build vmName p t
  let uuid ← guestUuid p
  return ⟨uuid, machine, firmware, cpu, memory, storage, monitors, devices⟩

/-! ## Placing -/

def placeUsbController (r : UsbControllerRequest) : Alloc Unit :=
  Alloc.addUsbController r.id r.model r.ports r.hint

def placeMemory (d : UnplacedMemoryDevice) : Alloc MemoryDevice := do
  return ⟨d.name, d.backend, ← d.device.place⟩

def placeDisk (d : UnplacedDisk) : Alloc Disk := do
  return ⟨d.name, d.media, d.backend, ← d.device.place⟩

def placeNic (n : UnplacedNic) : Alloc Nic := do
  return ⟨n.name, n.netdev, ← n.device.place⟩

/-- Gives out an index to a device that asks for a certain one. -/
def explicitIndex (d : UnplacedDevice) : Alloc (Option UInt32) :=
  match d.bootRequest with
  | .explicit index => Alloc.claimBootIndex d.node.id (.explicit index)
  | _ => return none

/-- Gives out an index to a device that accepts any. -/
def nextIndex (d : UnplacedDevice) : Alloc (Option UInt32) :=
  match d.bootRequest with
  | .next => Alloc.claimBootIndex d.node.id .next
  | _ => return none

def bootIndices (ds : List UnplacedDevice) : Alloc (List (Option UInt32)) := do
  let explicit ← ds.mapM explicitIndex
  let next ← ds.mapM nextIndex
  return explicit.zipWith Option.or next

def withIndex (d : DeviceNode) : Option UInt32 → DeviceNode
  | some index => d.setBootindex index
  | none => d

/-- The sections of a document that hold placed devices. -/
structure Placed where
  memory : List MemoryDevice
  disks : List Disk
  nics : List Nic
  devices : List DeviceNode

def place (plan : Plan) : Alloc Placed := do
  plan.devices.usbControllers.forM placeUsbController
  let memory ← plan.memory.devices.mapM placeMemory
  let disks ← plan.storage.disks.mapM placeDisk
  let nics ← plan.devices.nics.mapM placeNic
  let devices ← plan.devices.devices.mapM UnplacedDevice.place
  let asking := plan.storage.disks.map UnplacedDisk.device ++
    plan.devices.nics.map UnplacedNic.device
  let indices ← bootIndices asking
  let disks' :=
    disks.zipWith (fun (d : Disk) i => { d with device := withIndex d.device i }) indices
  let nics' := nics.zipWith (fun (n : Nic) i => { n with device := withIndex n.device i })
    (indices.drop disks.length)
  return ⟨memory, disks', nics', devices⟩

def document (vmName : String) (plan : Plan) (placed : Placed) (a : BusAllocator) :
    InstanceSpec where
  name := vmName
  uuid := plan.uuid
  machine := { plan.machine with
    memoryBackend := plan.memory.machineBackend?
    legacyMemPath := plan.memory.legacyMemPath
    nvdimm := plan.memory.nvdimm }
  firmware := plan.firmware
  cpu := plan.cpu
  memory := { plan.memory.memory with devices := placed.memory }
  buses := a.parts.1
  controllers := a.parts.2
  objects := plan.storage.objects ++ plan.devices.objects
  storage := placed.disks
  network := placed.nics
  devices := placed.devices
  chardevs := plan.monitors.map (·.2) ++ plan.devices.chardevs
  monitors := plan.monitors.map (·.1)

/-- Places a plan on the buses of a machine and writes its document. -/
def assemble (vmName : String) (plan : Plan) (a : BusAllocator) :
    Except CompileError InstanceSpec :=
  match plan.place.run.run a with
  | (.ok placed, a) => .ok (plan.document vmName placed a)
  | (.error e, _) => .error e

end Plan

/-- The steps of a compilation. The version of the hypervisor is always asked for. -/
def compiling {m : Type → Type} [Monad m] {H I : Type} [HostResources H] [Identifiers I]
    (o : Oracle m) (vmName : String) (p : Parameters) : Compiling H I m InstanceSpec := do
  let t ← CompileError.ofParameters (Target.ofParameters o p)
  let _ ← (o.version : m _)
  let config ← (Plan.allocatorConfig p t : Build m _)
  let plan ← Plan.build vmName p t
  plan.assemble vmName (.start t.family t.machineType config)

/-- Compiles parameters into the document of a guest. The identifiers that were handed out stay
handed out when the compilation fails. -/
def compile {m : Type → Type} [Monad m] {H I : Type} [HostResources H] [Identifiers I]
    (o : Oracle m) (host : H) (vmName : String) (p : Parameters) (ids : I) :
    m (Except CompileError InstanceSpec × I) := do
  let (result, supply) ← (compiling o vmName p).run.run ⟨.start host, ids⟩
  return (result, supply.ids)

end GuestSpec

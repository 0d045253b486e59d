import GuestSpec.Device.Unplaced
import GuestSpec.Machine.Target

/-!
# Memory plans

How much memory a guest has, where it comes from, and the memory that is plugged in beside it.
-/

namespace GuestSpec

structure UnplacedMemoryDevice where
  name : String
  backend : MemoryBackend
  device : UnplacedDevice
  deriving DecidableEq, Inhabited

/-- The memory of a guest, apart from the devices, and what it means for the machine. -/
structure MemoryPlan where
  memory : Memory
  legacyMemPath : Option LegacyMemPath
  nvdimm : Bool
  devices : List UnplacedMemoryDevice
  deriving DecidableEq, Inhabited

namespace MemoryPlan

/-- The backend that the machine takes its memory from. -/
def machineBackend? (plan : MemoryPlan) : Option String :=
  plan.memory.backend.map MemoryBackend.id

/-! ## Size -/

def hostShare (p : Parameters) (hostMib : UInt64) : Except CompileError UInt64 := do
  let ratio := (← p.float? "auto_mem_ratio").getD 0.5
  if ratio > 0.0 && ratio ≤ 1.0 then return (hostMib.toFloat * ratio).toUInt64
  else throw (.invalid "auto_mem_ratio" (p.getD "auto_mem_ratio" "") "a ratio in (0, 1]")

def requestedSize (p : Parameters) (hostMib : UInt64) : Except CompileError UInt64 := do
  if (p.get? "mem").map Text.trim = some "auto" then hostShare p hostMib
  else return (← p.size? "mem").getD 1024

/-- The size of the base memory: what is asked for, within the limits. -/
def size (p : Parameters) (hostMib : UInt64) : Except CompileError UInt64 := do
  let requested ← requestedSize p hostMib
  let size := match ← p.size? "vm_mem_limit" with
    | some limit => if limit < requested then limit else requested
    | none => requested
  let minimum := (← p.size? "vm_mem_minimum").getD 512
  if size < minimum then throw (.limit (.memoryBelowMinimum size minimum))
  return size

/-! ## Backends -/

def machineBackendKind (p : Parameters) : Except Parameters.Error (Option MemoryBackendKind) := do
  let hugepage ← p.boolD "hugepage" false
  let memPath :=
    if hugepage then some (p.getD "hugepage_path" "/mnt/kvm_hugepage") else p.get? "mem_path"
  let default := if memPath.isSome then "memory-backend-file" else ""
  match p.getD "vm_mem_backend" default with
  | "" => return none
  | "memory-backend-ram" => return some .ram
  | "memory-backend-memfd" => return some (.memfd hugepage)
  | "memory-backend-file" =>
    match memPath with
    | some path => return some (.file path false)
    | none => throw (.missing "mem_path")
  | other => throw (.invalid "vm_mem_backend" other "a memory backend type")

variable {m : Type → Type} [Monad m]

/-- The backend of the base memory, or a file for hypervisors without backends for it. -/
def baseMemory (p : Parameters) (t : Target m) (sizeMib : UInt64) :
    Build m (Option MemoryBackend × Option LegacyMemPath) := do
  match ← machineBackendKind p with
  | none => return (none, none)
  | some kind =>
    let share ← p.boolD "vm_mem_share" false
    let prealloc ← p.boolD "vm_mem_prealloc" false
    if ← t.probe .machineMemoryBackend then
      t.requireObject kind.typeName
      return (some ⟨"mem-machine_mem", sizeMib, kind, share, prealloc⟩, none)
    else match kind with
      | .file path _ => return (none, some ⟨path, prealloc⟩)
      | .ram => return (none, none)
      | .memfd _ =>
        throw (.unsupported (.missingCapability "memory-backend-memfd as machine memory"
          .machineMemoryBackend))

/-- What the memory of a device comes from. Persistent memory comes from a file. -/
def deviceBackendKind (name : String) (p : Parameters) (pmem : Bool) :
    Except Parameters.Error MemoryBackendKind := do
  let raw := p.getD "backend_mem" (if pmem then "memory-backend-file" else "memory-backend-ram")
  if raw = "memory-backend-file" then return .file (← p.require "mem-path") pmem
  else if pmem then
    throw (.invalid ("backend_mem_" ++ name) raw "memory-backend-file for persistent memory")
  else if raw = "memory-backend-ram" then return .ram
  else if raw = "memory-backend-memfd" then return .memfd (← p.boolD "hugepage" false)
  else throw (.invalid ("backend_mem_" ++ name) raw "a memory backend type")

def deviceBackend (name : String) (p : Parameters) (sizeMib : UInt64) (pmem : Bool) :
    Except Parameters.Error MemoryBackend := do
  let kind ← deviceBackendKind name p pmem
  let share ← p.boolD "share_mem" false
  let prealloc ← p.boolD "prealloc_mem" false
  return ⟨"mem-" ++ name, sizeMib, kind, share, prealloc⟩

/-! ## Devices -/

/-- The memory devices so far. -/
structure Devices where
  list : List UnplacedMemoryDevice
  nvdimm : Bool
  /-- The number of memory modules, which is the slot of the next one. -/
  slots : UInt32
  totalMib : UInt64
  deriving Inhabited

/-- A sum in 64 bits. -/
def addSizes (a b : UInt64) : Except CompileError UInt64 :=
  if a.toNat + b.toNat < UInt64.size then .ok (a + b) else .error .overflow

def nextSlot (n : UInt32) : Except CompileError UInt32 :=
  if n.toNat + 1 < UInt32.size then .ok (n + 1) else .error .overflow

def dimm (name : String) (backend : MemoryBackend) (slot : UInt32) (pmem : Bool) : DeviceNode :=
  .bare ((if pmem then "nvdimm-" else "dimm-") ++ name) (if pmem then "nvdimm" else "pc-dimm")
    (.dimm ⟨backend.id, slot, pmem⟩)

/-- A paravirtual memory device. MMIO transports know nothing of nodes and memory slots. -/
def virtioMem (name : String) (p : Parameters) (t : Target m) (backend : MemoryBackend) :
    Except Parameters.Error DeviceNode := do
  let full := t.family.virtioTransport == .pci
  let requested ← p.size? "requested_size"
  let block ← p.size? "block_size"
  let node ← p.uint32? "node_mem"
  let prealloc ← p.bool? "prealloc_mem"
  let memslots ← p.bool? "dynamic-memslots_mem"
  return .bare ("virtio_mem-" ++ name) (t.virtio "virtio-mem")
    (.virtioMem ⟨backend.id, requested, block, node.filter fun _ => full,
      prealloc.filter fun _ => full, memslots.filter fun _ => full⟩)

/-- The backend and the device of memory that is plugged in, the bus it needs, and the slot for
the next module. -/
def deviceParts (name : String) (p : Parameters) (t : Target m) (sizeMib : UInt64) (pmem : Bool)
    (slot : UInt32) : Except CompileError (MemoryBackend × DeviceNode × BusRequest × UInt32) := do
  match p.getD "mem_devtype" "dimm" with
  | "dimm" =>
    let backend ← deviceBackend name p sizeMib pmem
    let next ← nextSlot slot
    return (backend, dimm name backend slot pmem, .none, next)
  | "virtio-mem" =>
    if t.family.virtioTransport = .ccw then throw (t.unsupported "virtio-mem")
    let backend ← deviceBackend name p sizeMib false
    let node ← virtioMem name p t backend
    return (backend, node, .virtio, slot)
  | other => throw (.invalid ("mem_devtype_" ++ name) other "dimm or virtio-mem")

def isNvdimm (d : DeviceNode) : Bool :=
  match d.props with
  | .dimm p => p.nvdimm
  | _ => false

def addDevice (p : Parameters) (t : Target m) (ds : Devices) (name : String) :
    Build m Devices := do
  let p := p.scopedTo name
  match ← p.size? "size_mem" with
  | none => throw (.missing ("size_mem_" ++ name))
  | some sizeMib =>
    let pmem ← p.boolD "pmem" false
    let (backend, node, bus, slots) ← deviceParts name p t sizeMib pmem ds.slots
    t.requireObject backend.kind.typeName
    t.requireDevice node.driver
    let totalMib ← addSizes ds.totalMib sizeMib
    return ⟨ds.list ++ [⟨name, backend, ⟨node, .ofBus bus⟩⟩], ds.nvdimm || isNvdimm node, slots,
      totalMib⟩

/-- The greatest size of the memory and the number of slots. With memory devices, both are known
and cover the devices. -/
def limits (p : Parameters) (sizeMib : UInt64) (ds : Devices) :
    Except CompileError (Option UInt64 × Option UInt32) := do
  let maxmem ← p.size? "maxmem_mem"
  let slots ← p.uint32? "slots_mem"
  if ds.list.isEmpty then return (maxmem, slots)
  let needed ← addSizes sizeMib ds.totalMib
  let maxmem ← match maxmem with
    | some maxmem =>
      if maxmem < needed then throw (.limit (.maxMemExceeded needed maxmem)) else pure maxmem
    | none => pure needed
  let slots ← match slots with
    | some slots =>
      if slots < ds.slots then throw (.limit (.memorySlotsExhausted ds.slots slots))
      else pure slots
    | none => pure (max ds.slots 1)
  return (some maxmem, some slots)

def build (p : Parameters) (t : Target m) (hostMib : UInt64) : Build m MemoryPlan := do
  let sizeMib ← size p hostMib
  let (backend, legacyMemPath) ← baseMemory p t sizeMib
  let ds ← (p.objects "mem_devs").foldlM (addDevice p t) ⟨[], false, 0, 0⟩
  let (maxmem, slots) ← limits p sizeMib ds
  return ⟨⟨sizeMib, maxmem, slots, backend, []⟩, legacyMemPath, ds.nvdimm, ds.list⟩

end MemoryPlan

end GuestSpec

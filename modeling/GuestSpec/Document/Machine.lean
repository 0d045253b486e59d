import GuestSpec.Document.Device
import GuestSpec.Document.Storage

/-!
# Machines

The machine itself: its type, its firmware, its processors and its memory.
-/

namespace GuestSpec

open Json

/-- How a machine carries virtio devices. -/
inductive VirtioTransport where
  | pci
  | ccw
  | mmio
  deriving DecidableEq, Inhabited

instance : Named VirtioTransport where
  all := [.pci, .ccw, .mmio]
  name
    | .pci => "pci"
    | .ccw => "ccw"
    | .mmio => "mmio"

namespace VirtioTransport

/-- What the transport adds to the name of a virtio model. -/
def suffix : VirtioTransport → String
  | pci => "pci"
  | ccw => "ccw"
  | mmio => "device"

def driver (t : VirtioTransport) (base : String) : String := base ++ "-" ++ t.suffix

end VirtioTransport

/-- Machine types that share a layout of buses. -/
inductive MachineFamily where
  /-- A flat PCI bus. -/
  | i440fx
  /-- A PCI Express root complex. -/
  | q35
  /-- A virtual Arm board with a PCI Express host bridge, or with virtio MMIO transports only. -/
  | armVirt (mmio : Bool)
  | pseries
  | s390Ccw
  | microvm
  deriving DecidableEq, Inhabited

namespace MachineFamily

def isX86 : MachineFamily → Bool
  | i440fx | q35 | microvm => true
  | _ => false

/-- Whether the machine has virtio MMIO transports and no PCI. -/
def isMmioOnly : MachineFamily → Bool
  | microvm | armVirt true => true
  | _ => false

/-- Whether the machine has a PCI Express root complex. -/
def isExpress : MachineFamily → Bool
  | q35 | armVirt false => true
  | _ => false

def hasPci : MachineFamily → Bool
  | s390Ccw | microvm | armVirt true => false
  | _ => true

def virtioTransport : MachineFamily → VirtioTransport
  | s390Ccw => .ccw
  | microvm | armVirt true => .mmio
  | _ => .pci

instance : Codec MachineFamily where
  encode
    | i440fx => tagging "type" "i440fx" []
    | q35 => tagging "type" "q35" []
    | armVirt mmio => tagging "type" "arm_virt" (field "mmio" mmio)
    | pseries => tagging "type" "pseries" []
    | s390Ccw => tagging "type" "s390_ccw" []
    | microvm => tagging "type" "microvm" []
  read? := tagged? "type" [
    ("i440fx", noFields? i440fx),
    ("q35", noFields? q35),
    ("arm_virt", fun p => do
      let r ← record? ["mmio"] p
      return .armVirt (← r.get "mmio")),
    ("pseries", noFields? pseries),
    ("s390_ccw", noFields? s390Ccw),
    ("microvm", noFields? microvm)]

end MachineFamily

/-- A file for the guest's memory, for hypervisors that take no backend object for it. -/
structure LegacyMemPath where
  path : String
  prealloc : Bool
  deriving DecidableEq, Inhabited

instance : Codec LegacyMemPath where
  encode p := .obj (field "path" p.path ++ field "prealloc" p.prealloc)
  read? p := do
    let r ← record? ["path", "prealloc"] p
    return ⟨← r.get "path", ← r.get "prealloc"⟩

structure Machine where
  machineType : String
  family : MachineFamily
  /-- The accelerator. -/
  accel : String
  /-- The backend object of the guest's memory. -/
  memoryBackend : Option String
  legacyMemPath : Option LegacyMemPath
  /-- Whether the machine has persistent memory modules. -/
  nvdimm : Bool
  /-- Whether the firmware needs system management mode. -/
  smm : Bool
  /-- The nodes of the firmware's code and variables, when they are attached as nodes. -/
  pflash0 : Option String
  pflash1 : Option String
  extra : TextMap
  deriving DecidableEq, Inhabited

instance : Codec Machine where
  encode m := .obj <|
    field "machine_type" m.machineType ++ field "family" m.family ++ field "accel" m.accel ++
      optional "memory_backend" m.memoryBackend ++ optional "legacy_mem_path" m.legacyMemPath ++
      field "nvdimm" m.nvdimm ++ field "smm" m.smm ++ optional "pflash0" m.pflash0 ++
      optional "pflash1" m.pflash1 ++ nonemptyMap "extra" m.extra
  read? p := do
    let r ← record? ["machine_type", "family", "accel", "memory_backend", "legacy_mem_path",
      "nvdimm", "smm", "pflash0", "pflash1", "extra"] p
    return ⟨← r.get "machine_type", ← r.get "family", ← r.get "accel", ← r.get? "memory_backend",
      ← r.get? "legacy_mem_path", ← r.get "nvdimm", ← r.get "smm", ← r.get? "pflash0",
      ← r.get? "pflash1", ← r.getD "extra" .empty⟩

structure FlashImage where
  path : String
  backend : StorageBackend
  deriving DecidableEq, Inhabited

instance : Codec FlashImage where
  encode f := .obj (field "path" f.path ++ field "backend" f.backend)
  read? p := do
    let r ← record? ["path", "backend"] p
    return ⟨← r.get "path", ← r.get "backend"⟩

inductive Firmware where
  | bios (path : Option String)
  | uefi (code vars : FlashImage) (secureBoot : Bool)
  /-- Firmware that the hypervisor brings for the machine. -/
  | builtin (name : String)
  deriving DecidableEq, Inhabited

instance : Codec Firmware where
  encode
    | .bios path => tagging "type" "bios" (optional "path" path)
    | .uefi code vars secureBoot =>
      tagging "type" "uefi"
        (field "code" code ++ field "vars" vars ++ field "secure_boot" secureBoot)
    | .builtin name => tagging "type" "builtin" (field "name" name)
  read? := tagged? "type" [
    ("bios", fun p => do
      let r ← record? ["path"] p
      return .bios (← r.get? "path")),
    ("uefi", fun p => do
      let r ← record? ["code", "vars", "secure_boot"] p
      return .uefi (← r.get "code") (← r.get "vars") (← r.get "secure_boot")),
    ("builtin", fun p => do
      let r ← record? ["name"] p
      return .builtin (← r.get "name"))]

/-- A feature of a processor model, switched on or off. -/
structure CpuFlag where
  name : String
  enabled : Bool
  deriving DecidableEq, Inhabited

instance : Codec CpuFlag where
  encode f := .obj (field "name" f.name ++ field "enabled" f.enabled)
  read? p := do
    let r ← record? ["name", "enabled"] p
    return ⟨← r.get "name", ← r.get "enabled"⟩

/-- How the logical processors are arranged. Dimensions that the hypervisor does not have are
absent and count one. -/
structure CpuTopology where
  /-- The processors that are present at the start. -/
  smp : UInt32
  /-- The most processors there can be. -/
  maxcpus : UInt32
  sockets : UInt32
  cores : UInt32
  threads : UInt32
  dies : Option UInt32
  clusters : Option UInt32
  books : Option UInt32
  drawers : Option UInt32
  deriving DecidableEq, Inhabited

/-- A product in 64 bits, multiplied from the left. There is none when it leaves the 64 bits. -/
def wordProduct? (dims : List UInt32) : Option Nat :=
  dims.foldlM (fun acc d =>
    if acc * d.toNat < UInt64.size then some (acc * d.toNat) else none) 1

namespace CpuTopology

def dimensions (t : CpuTopology) : List UInt32 :=
  [t.sockets, t.cores, t.threads, t.dies.getD 1, t.clusters.getD 1, t.books.getD 1,
    t.drawers.getD 1]

/-- The number of processors that all dimensions make together. -/
def product (t : CpuTopology) : Nat := (t.dimensions.map UInt32.toNat).foldl (· * ·) 1

/-- The number of processors, as far as 64 bits can count it. -/
def product? (t : CpuTopology) : Option Nat := wordProduct? t.dimensions

end CpuTopology

instance : Codec CpuTopology where
  encode t := .obj <|
    field "smp" t.smp ++ field "maxcpus" t.maxcpus ++ field "sockets" t.sockets ++
      field "cores" t.cores ++ field "threads" t.threads ++ optional "dies" t.dies ++
      optional "clusters" t.clusters ++ optional "books" t.books ++ optional "drawers" t.drawers
  read? p := do
    let r ← record? ["smp", "maxcpus", "sockets", "cores", "threads", "dies", "clusters", "books",
      "drawers"] p
    return ⟨← r.get "smp", ← r.get "maxcpus", ← r.get "sockets", ← r.get "cores",
      ← r.get "threads", ← r.get? "dies", ← r.get? "clusters", ← r.get? "books",
      ← r.get? "drawers"⟩

structure Cpu where
  model : String
  flags : List CpuFlag
  topology : CpuTopology
  /-- The processors that are plugged in later. -/
  hotplugDevices : List String
  deriving DecidableEq, Inhabited

instance : Codec Cpu where
  encode c := .obj <|
    field "model" c.model ++ nonempty "flags" c.flags ++ field "topology" c.topology ++
      nonempty "hotplug_devices" c.hotplugDevices
  read? p := do
    let r ← record? ["model", "flags", "topology", "hotplug_devices"] p
    return ⟨← r.get "model", ← r.getD "flags" [], ← r.get "topology",
      ← r.getD "hotplug_devices" []⟩

inductive MemoryBackendKind where
  | ram
  | file (memPath : String) (pmem : Bool)
  | memfd (hugetlb : Bool)
  deriving DecidableEq, Inhabited

def MemoryBackendKind.typeName : MemoryBackendKind → String
  | ram => "memory-backend-ram"
  | file .. => "memory-backend-file"
  | memfd _ => "memory-backend-memfd"

instance : Codec MemoryBackendKind where
  encode k :=
    match k with
    | .ram => tagging "type" k.typeName []
    | .file memPath pmem =>
      tagging "type" k.typeName (field "mem_path" memPath ++ field "pmem" pmem)
    | .memfd hugetlb => tagging "type" k.typeName (field "hugetlb" hugetlb)
  read? := tagged? "type" [
    ("memory-backend-ram", noFields? .ram),
    ("memory-backend-file", fun p => do
      let r ← record? ["mem_path", "pmem"] p
      return .file (← r.get "mem_path") (← r.get "pmem")),
    ("memory-backend-memfd", fun p => do
      let r ← record? ["hugetlb"] p
      return .memfd (← r.get "hugetlb"))]

structure MemoryBackend where
  id : String
  sizeMib : UInt64
  kind : MemoryBackendKind
  share : Bool
  prealloc : Bool
  deriving DecidableEq, Inhabited

instance : Codec MemoryBackend where
  encode b := .obj <|
    field "id" b.id ++ field "size_mib" b.sizeMib ++ field "kind" b.kind ++
      field "share" b.share ++ field "prealloc" b.prealloc
  read? p := do
    let r ← record? ["id", "size_mib", "kind", "share", "prealloc"] p
    return ⟨← r.get "id", ← r.get "size_mib", ← r.get "kind", ← r.get "share",
      ← r.get "prealloc"⟩

/-- Memory that is plugged in beside the base memory. -/
structure MemoryDevice where
  name : String
  backend : MemoryBackend
  device : DeviceNode
  deriving DecidableEq, Inhabited

instance : Codec MemoryDevice where
  encode d := .obj (field "name" d.name ++ field "backend" d.backend ++ field "device" d.device)
  read? p := do
    let r ← record? ["name", "backend", "device"] p
    return ⟨← r.get "name", ← r.get "backend", ← r.get "device"⟩

structure Memory where
  sizeMib : UInt64
  maxmemMib : Option UInt64
  slots : Option UInt32
  /-- The backend of the base memory. -/
  backend : Option MemoryBackend
  devices : List MemoryDevice
  deriving DecidableEq, Inhabited

instance : Codec Memory where
  encode m := .obj <|
    field "size_mib" m.sizeMib ++ optional "maxmem_mib" m.maxmemMib ++ optional "slots" m.slots ++
      optional "backend" m.backend ++ nonempty "devices" m.devices
  read? p := do
    let r ← record? ["size_mib", "maxmem_mib", "slots", "backend", "devices"] p
    return ⟨← r.get "size_mib", ← r.get? "maxmem_mib", ← r.get? "slots", ← r.get? "backend",
      ← r.getD "devices" []⟩

end GuestSpec

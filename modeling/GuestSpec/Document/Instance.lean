import GuestSpec.Document.Machine
import GuestSpec.Uuid

/-!
# Instance documents

The complete description of a guest: its machine, its buses and controllers, and every device with
its place.
-/

namespace GuestSpec

open Json

inductive Media where
  | disk
  | cdrom
  | floppy
  deriving DecidableEq, Inhabited

instance : Named Media where
  all := [.disk, .cdrom, .floppy]
  name
    | .disk => "disk"
    | .cdrom => "cdrom"
    | .floppy => "floppy"

/-- An image: its backend and the device that shows it to the guest. -/
structure Disk where
  name : String
  media : Media
  backend : StorageBackend
  device : DeviceNode
  deriving DecidableEq, Inhabited

instance : Codec Disk where
  encode d := .obj <|
    field "name" d.name ++ field "media" d.media ++ field "backend" d.backend ++
      field "device" d.device
  read? p := do
    let r ← record? ["name", "media", "backend", "device"] p
    return ⟨← r.get "name", ← r.get "media", ← r.get "backend", ← r.get "device"⟩

structure Nic where
  name : String
  netdev : Netdev
  device : DeviceNode
  deriving DecidableEq, Inhabited

instance : Codec Nic where
  encode n := .obj (field "name" n.name ++ field "netdev" n.netdev ++ field "device" n.device)
  read? p := do
    let r ← record? ["name", "netdev", "device"] p
    return ⟨← r.get "name", ← r.get "netdev", ← r.get "device"⟩

/-- The document of a guest. -/
structure InstanceSpec where
  name : String
  uuid : Uuid
  machine : Machine
  firmware : Firmware
  cpu : Cpu
  memory : Memory
  buses : List Bus
  controllers : List Controller
  objects : List ObjectSpec
  storage : List Disk
  network : List Nic
  devices : List DeviceNode
  chardevs : List Chardev
  monitors : List Monitor
  deriving DecidableEq, Inhabited

instance : Codec InstanceSpec where
  encode s := .obj <|
    field "name" s.name ++ field "uuid" s.uuid ++ field "machine" s.machine ++
      field "firmware" s.firmware ++ field "cpu" s.cpu ++ field "memory" s.memory ++
      field "buses" s.buses ++ field "controllers" s.controllers ++ field "objects" s.objects ++
      field "storage" s.storage ++ field "network" s.network ++ field "devices" s.devices ++
      field "chardevs" s.chardevs ++ field "monitors" s.monitors
  read? p := do
    let r ← record? ["name", "uuid", "machine", "firmware", "cpu", "memory", "buses",
      "controllers", "objects", "storage", "network", "devices", "chardevs", "monitors"] p
    return ⟨← r.get "name", ← r.get "uuid", ← r.get "machine", ← r.get "firmware", ← r.get "cpu",
      ← r.get "memory", ← r.get "buses", ← r.get "controllers", ← r.get "objects",
      ← r.get "storage", ← r.get "network", ← r.get "devices", ← r.get "chardevs",
      ← r.get "monitors"⟩

namespace InstanceSpec

/-- The devices of all sections: disks, network cards, memory and the rest. -/
def allDevices (s : InstanceSpec) : List DeviceNode :=
  s.storage.map Disk.device ++ s.network.map Nic.device ++
    s.memory.devices.map MemoryDevice.device ++ s.devices

/-- Every placement with the controller or device that has it. -/
def placements (s : InstanceSpec) : List (String × Placement) :=
  s.controllers.filterMap (fun c => c.placement.map (c.id, ·)) ++
    s.allDevices.filterMap fun d => d.placement.map (d.id, ·)

def device? (s : InstanceSpec) (id : String) : Option DeviceNode :=
  s.allDevices.find? (·.id == id)

def controller? (s : InstanceSpec) (id : String) : Option Controller :=
  s.controllers.find? (·.id == id)

def disk? (s : InstanceSpec) (name : String) : Option Disk := s.storage.find? (·.name == name)

end InstanceSpec

end GuestSpec

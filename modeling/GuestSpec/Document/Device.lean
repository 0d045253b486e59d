import GuestSpec.Document.Address
import GuestSpec.Document.Backend

/-!
# Devices

The devices that the guest sees, and the controllers that provide buses for them.
-/

namespace GuestSpec

open Json

structure DiskProps where
  /-- The node or drive record behind the device. -/
  drive : Option String
  bootindex : Option UInt32
  serial : Option String
  readOnly : Bool
  removable : Bool
  deriving DecidableEq, Inhabited

instance : Codec DiskProps where
  encode p := .obj <|
    optional "drive" p.drive ++ optional "bootindex" p.bootindex ++ optional "serial" p.serial ++
      field "read_only" p.readOnly ++ field "removable" p.removable
  read? p := do
    let r ← record? ["drive", "bootindex", "serial", "read_only", "removable"] p
    return ⟨← r.get? "drive", ← r.get? "bootindex", ← r.get? "serial", ← r.get "read_only",
      ← r.get "removable"⟩

structure NicProps where
  netdev : String
  mac : String
  bootindex : Option UInt32
  /-- Whether the card has several queues. -/
  mq : Bool
  vectors : Option UInt32
  deriving DecidableEq, Inhabited

instance : Codec NicProps where
  encode p := .obj <|
    field "netdev" p.netdev ++ field "mac" p.mac ++ optional "bootindex" p.bootindex ++
      field "mq" p.mq ++ optional "vectors" p.vectors
  read? p := do
    let r ← record? ["netdev", "mac", "bootindex", "mq", "vectors"] p
    return ⟨← r.get "netdev", ← r.get "mac", ← r.get? "bootindex", ← r.get "mq",
      ← r.get? "vectors"⟩

structure RngProps where
  rng : String
  maxBytes : Option UInt64
  periodMs : Option UInt64
  deriving DecidableEq, Inhabited

instance : Codec RngProps where
  encode p := .obj <|
    field "rng" p.rng ++ optional "max_bytes" p.maxBytes ++ optional "period_ms" p.periodMs
  read? p := do
    let r ← record? ["rng", "max_bytes", "period_ms"] p
    return ⟨← r.get "rng", ← r.get? "max_bytes", ← r.get? "period_ms"⟩

structure DimmProps where
  memdev : String
  slot : UInt32
  nvdimm : Bool
  deriving DecidableEq, Inhabited

instance : Codec DimmProps where
  encode p := .obj (field "memdev" p.memdev ++ field "slot" p.slot ++ field "nvdimm" p.nvdimm)
  read? p := do
    let r ← record? ["memdev", "slot", "nvdimm"] p
    return ⟨← r.get "memdev", ← r.get "slot", ← r.get "nvdimm"⟩

structure VirtioMemProps where
  memdev : String
  requestedSizeMib : Option UInt64
  blockSizeMib : Option UInt64
  node : Option UInt32
  prealloc : Option Bool
  dynamicMemslots : Option Bool
  deriving DecidableEq, Inhabited

instance : Codec VirtioMemProps where
  encode p := .obj <|
    field "memdev" p.memdev ++ optional "requested_size_mib" p.requestedSizeMib ++
      optional "block_size_mib" p.blockSizeMib ++ optional "node" p.node ++
      optional "prealloc" p.prealloc ++ optional "dynamic_memslots" p.dynamicMemslots
  read? p := do
    let r ← record? ["memdev", "requested_size_mib", "block_size_mib", "node", "prealloc",
      "dynamic_memslots"] p
    return ⟨← r.get "memdev", ← r.get? "requested_size_mib", ← r.get? "block_size_mib",
      ← r.get? "node", ← r.get? "prealloc", ← r.get? "dynamic_memslots"⟩

inductive DeviceProps where
  | disk (p : DiskProps)
  | nic (p : NicProps)
  | rng (p : RngProps)
  | tpm (tpmdev : String)
  /-- A serial port; ports of a virtio controller have a name for the guest. -/
  | serial (chardev : String) (name : Option String)
  | vsock (guestCid : UInt32)
  | balloon (deflateOnOom freePageReporting : Bool)
  | watchdog (action : String)
  | input
  | sound (codec : Option String)
  | usb
  | display
  | dimm (p : DimmProps)
  | virtioMem (p : VirtioMemProps)
  deriving DecidableEq, Inhabited

instance : Codec DeviceProps where
  encode
    | .disk p => taggingRecord "kind" "disk" (encode p)
    | .nic p => taggingRecord "kind" "nic" (encode p)
    | .rng p => taggingRecord "kind" "rng" (encode p)
    | .tpm tpmdev => tagging "kind" "tpm" (field "tpmdev" tpmdev)
    | .serial chardev name =>
      tagging "kind" "serial" (field "chardev" chardev ++ optional "name" name)
    | .vsock guestCid => tagging "kind" "vsock" (field "guest_cid" guestCid)
    | .balloon deflateOnOom freePageReporting =>
      tagging "kind" "balloon"
        (field "deflate_on_oom" deflateOnOom ++ field "free_page_reporting" freePageReporting)
    | .watchdog action => tagging "kind" "watchdog" (field "action" action)
    | .input => tagging "kind" "input" []
    | .sound codec => tagging "kind" "sound" (optional "codec" codec)
    | .usb => tagging "kind" "usb" []
    | .display => tagging "kind" "display" []
    | .dimm p => taggingRecord "kind" "dimm" (encode p)
    | .virtioMem p => taggingRecord "kind" "virtio_mem" (encode p)
  read? := tagged? "kind" [
    ("disk", fun p => (read? p).map .disk),
    ("nic", fun p => (read? p).map .nic),
    ("rng", fun p => (read? p).map .rng),
    ("tpm", fun p => do
      let r ← record? ["tpmdev"] p
      return .tpm (← r.get "tpmdev")),
    ("serial", fun p => do
      let r ← record? ["chardev", "name"] p
      return .serial (← r.get "chardev") (← r.get? "name")),
    ("vsock", fun p => do
      let r ← record? ["guest_cid"] p
      return .vsock (← r.get "guest_cid")),
    ("balloon", fun p => do
      let r ← record? ["deflate_on_oom", "free_page_reporting"] p
      return .balloon (← r.get "deflate_on_oom") (← r.get "free_page_reporting")),
    ("watchdog", fun p => do
      let r ← record? ["action"] p
      return .watchdog (← r.get "action")),
    ("input", noFields? .input),
    ("sound", fun p => do
      let r ← record? ["codec"] p
      return .sound (← r.get? "codec")),
    ("usb", noFields? .usb),
    ("display", noFields? .display),
    ("dimm", fun p => (read? p).map .dimm),
    ("virtio_mem", fun p => (read? p).map .virtioMem)]

/-- A device that the guest sees. -/
structure DeviceNode where
  id : String
  /-- The hypervisor's name for the model of the device. -/
  driver : String
  /-- Where the device sits; devices built into the machine sit nowhere. -/
  placement : Option Placement
  props : DeviceProps
  /-- Further properties, passed on as they are. -/
  extra : TextMap
  deriving DecidableEq, Inhabited

namespace DeviceNode

/-- A device without a placement and without further properties. -/
def bare (id driver : String) (props : DeviceProps) : DeviceNode :=
  ⟨id, driver, none, props, .empty⟩

/-- Gives a device its place in the boot order. Devices without a property of their own for it
carry it among the further properties. -/
def setBootindex (d : DeviceNode) (index : UInt32) : DeviceNode :=
  match d.props with
  | .disk p => { d with props := .disk { p with bootindex := some index } }
  | .nic p => { d with props := .nic { p with bootindex := some index } }
  | _ =>
    { d with extra := d.extra.insert "bootindex" (String.ofList (Numeral.decimal index.toNat)) }

instance : Codec DeviceNode where
  encode d := .obj <|
    field "id" d.id ++ field "driver" d.driver ++ optional "placement" d.placement ++
      field "props" d.props ++ nonemptyMap "extra" d.extra
  read? p := do
    let r ← record? ["id", "driver", "placement", "props", "extra"] p
    return ⟨← r.get "id", ← r.get "driver", ← r.get? "placement", ← r.get "props",
      ← r.getD "extra" .empty⟩

end DeviceNode

inductive HbaFamily where
  | virtioScsi
  | lsi
  deriving DecidableEq, Inhabited

instance : Named HbaFamily where
  all := [.virtioScsi, .lsi]
  name
    | .virtioScsi => "virtio_scsi"
    | .lsi => "lsi"

/-- The targets of an adapter, and the units of each. -/
def HbaFamily.defaultGeometry : HbaFamily → UInt16 × UInt16
  | virtioScsi => (256, 16384)
  | lsi => (7, 1)

/-- What a controller provides. -/
inductive ControllerKind where
  | pcieRootPort (chassis port : UInt8)
  | pciePciBridge
  | pciBridge (chassisNr : UInt8)
  | scsiHba (family : HbaFamily) (maxTargets maxLuns : UInt16)
  | ahci
  | usb (model : String)
  | fdc
  | virtioSerial (maxPorts : UInt8)
  deriving DecidableEq, Inhabited

instance : Codec ControllerKind where
  encode
    | .pcieRootPort chassis port =>
      tagging "type" "pcie_root_port" (field "chassis" chassis ++ field "port" port)
    | .pciePciBridge => tagging "type" "pcie_pci_bridge" []
    | .pciBridge chassisNr => tagging "type" "pci_bridge" (field "chassis_nr" chassisNr)
    | .scsiHba family maxTargets maxLuns =>
      tagging "type" "scsi_hba"
        (field "family" family ++ field "max_targets" maxTargets ++ field "max_luns" maxLuns)
    | .ahci => tagging "type" "ahci" []
    | .usb model => tagging "type" "usb" (field "model" model)
    | .fdc => tagging "type" "fdc" []
    | .virtioSerial maxPorts => tagging "type" "virtio_serial" (field "max_ports" maxPorts)
  read? := tagged? "type" [
    ("pcie_root_port", fun p => do
      let r ← record? ["chassis", "port"] p
      return .pcieRootPort (← r.get "chassis") (← r.get "port")),
    ("pcie_pci_bridge", noFields? .pciePciBridge),
    ("pci_bridge", fun p => do
      let r ← record? ["chassis_nr"] p
      return .pciBridge (← r.get "chassis_nr")),
    ("scsi_hba", fun p => do
      let r ← record? ["family", "max_targets", "max_luns"] p
      return .scsiHba (← r.get "family") (← r.get "max_targets") (← r.get "max_luns")),
    ("ahci", noFields? .ahci),
    ("usb", fun p => do
      let r ← record? ["model"] p
      return .usb (← r.get "model")),
    ("fdc", noFields? .fdc),
    ("virtio_serial", fun p => do
      let r ← record? ["max_ports"] p
      return .virtioSerial (← r.get "max_ports"))]

/-- A device that provides buses for other devices. -/
structure Controller where
  id : String
  driver : String
  placement : Option Placement
  kind : ControllerKind
  buses : List BusId
  deriving DecidableEq, Inhabited

instance : Codec Controller where
  encode c := .obj <|
    field "id" c.id ++ field "driver" c.driver ++ optional "placement" c.placement ++
      field "kind" c.kind ++ field "buses" c.buses
  read? p := do
    let r ← record? ["id", "driver", "placement", "kind", "buses"] p
    return ⟨← r.get "id", ← r.get "driver", ← r.get? "placement", ← r.get "kind",
      ← r.get "buses"⟩

end GuestSpec

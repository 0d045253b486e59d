import GuestSpec.Device.Chardev
import GuestSpec.Identity.Source
import GuestSpec.Machine.Target

/-!
# Device plans

The network cards and all devices that are neither disks nor memory, each family after the other
and each in the order of declaration.
-/

namespace GuestSpec

structure UnplacedNic where
  name : String
  netdev : Netdev
  device : UnplacedDevice
  deriving DecidableEq, Inhabited

structure UsbControllerRequest where
  id : String
  model : String
  ports : UInt8
  hint : PlacementHint
  deriving DecidableEq, Inhabited

/-- Devices with the objects and channels that they refer to. -/
structure DeviceParts where
  devices : List UnplacedDevice
  objects : List ObjectSpec
  chardevs : List Chardev
  deriving DecidableEq, Inhabited

namespace DeviceParts

def empty : DeviceParts := ⟨[], [], []⟩

def append (a b : DeviceParts) : DeviceParts :=
  ⟨a.devices ++ b.devices, a.objects ++ b.objects, a.chardevs ++ b.chardevs⟩

instance : Append DeviceParts := ⟨append⟩

def join (l : List DeviceParts) : DeviceParts := l.foldr append empty

def ofDevice (d : UnplacedDevice) : DeviceParts := ⟨[d], [], []⟩

end DeviceParts

structure DevicePlan where
  usbControllers : List UsbControllerRequest
  nics : List UnplacedNic
  devices : List UnplacedDevice
  objects : List ObjectSpec
  chardevs : List Chardev
  deriving DecidableEq, Inhabited

/-- What a compilation hands out: resources of a host, and identifiers. -/
structure Supply (H I : Type) where
  leases : HostLeases H
  ids : I

/-- A step of a compilation that may hand out resources and identifiers. -/
abbrev Compiling (H I : Type) (m : Type → Type) := ExceptT CompileError (StateT (Supply H I) m)

namespace Compiling

variable {m : Type → Type} [Monad m] {H I : Type}

instance : MonadLift (Build m) (Compiling H I m) where
  monadLift x := ExceptT.mk (StateT.lift x.run)

def leasing {α : Type} (x : Leasing H α) : Compiling H I m α := do
  let s ← get
  let (a, leases) ← x.run s.leases
  set { s with leases }
  return a

def identifier {α : Type} (x : StateM I α) : Compiling H I m α := do
  let s ← get
  let (a, ids) := x.run s.ids
  set { s with ids }
  return a

end Compiling

namespace DevicePlan

variable {m : Type → Type} [Monad m] {H I : Type} [HostResources H] [Identifiers I]

/-- A parameter of an object that has no such value. -/
def invalid (key object value expected : String) : CompileError :=
  .invalid (key ++ "_" ++ object) value expected

/-- A device that the hypervisor must have. -/
def device (t : Target m) (node : DeviceNode) (bus : BusRequest) (p : Parameters) :
    Compiling H I m UnplacedDevice := do
  t.requireDevice node.driver
  let request ← DeviceRequest.ofParameters bus p
  return ⟨node, request⟩

def channel (vmName owner : String) (p : Parameters) : Compiling H I m Chardev :=
  Compiling.leasing (Chardev.build ("chardev_" ++ owner) owner vmName p)

/-! ## USB controllers -/

def usbPorts? (model : String) : Option UInt8 :=
  if Text.occurs "uhci" model then some 2
  else if Text.occurs "ehci" model then some 6
  else if Text.occurs "xhci" model then some 4
  else none

def usbController (p : Parameters) (t : Target m) (id : String) :
    Build m UsbControllerRequest := do
  let p := p.scopedTo id
  let model := p.getD "usb_type" "qemu-xhci"
  match usbPorts? model with
  | none => throw (invalid "usb_type" id model "a USB host controller model")
  | some ports =>
    t.requireDevice model
    let ports := (← p.uint8? "usb_max_port").getD ports
    let hint ← PlacementHint.ofParameters p
    return ⟨id, model, ports, hint⟩

/-! ## Network cards -/

def nicModel (name : String) (t : Target m) (model : String) :
    Except CompileError (String × BusRequest) :=
  match model with
  | "virtio" => .ok (t.virtio "virtio-net", .virtio)
  | "e1000" | "rtl8139" => .ok (model, .pci .conventional)
  | "e1000e" => .ok (model, .pci .express)
  | "spapr-vlan" =>
    if t.family = .pseries then .ok (model, .none) else .error (t.unsupported model)
  | _ => .error (invalid "nic_model" name model "a NIC model")

def netdevBackend (name : String) (p : Parameters) (queues : Option UInt32) :
    Except CompileError NetdevBackend := do
  match p.getD "nettype" "user" with
  | "user" => return .user
  | "tap" => return .tap (p.get? "netdst") (← p.boolD "vhost" false) queues
  | "bridge" =>
    match p.get? "netdst" with
    | some br => return .bridge br
    | none => throw (.missing ("netdst_" ++ name))
  | other => throw (invalid "nettype" name other "user, tap or bridge")

/-- The interrupt vectors for a number of queue pairs: two for each pair, and two more. -/
def vectors (queues : UInt32) : Except CompileError UInt32 :=
  if 2 * queues.toNat + 2 < UInt32.size then .ok (2 * queues + 2) else .error .overflow

def vectors? : Option UInt32 → Except CompileError (Option UInt32)
  | some queues => return some (← vectors queues)
  | none => return none

def nic (p : Parameters) (t : Target m) (name : String) : Compiling H I m UnplacedNic := do
  let p := p.scopedTo name
  let model := p.getD "nic_model" "virtio"
  let (driver, bus) ← nicModel name t model
  t.requireDevice driver
  let queues := (← p.uint32? "queues").filter (1 < ·)
  let backend ← netdevBackend name p queues
  let mac ← match p.get? "nic_mac" with
    | some mac => pure mac
    | none => Compiling.identifier (Identifiers.mac name)
  let queues := if model = "virtio" then queues else none
  let vectors ← vectors? queues
  let extra ← p.properties "nic_extra_params"
  let request ← DeviceRequest.ofParameters bus p
  let netdev := "hostnet_" ++ name
  let props : NicProps := ⟨netdev, mac, none, queues.isSome, vectors⟩
  return ⟨name, ⟨netdev, backend⟩, ⟨⟨name, driver, none, .nic props, extra⟩, request⟩⟩

/-! ## Serial ports -/

def defaultSerial : MachineFamily → String
  | .i440fx | .q35 | .microvm => "isa-serial"
  | .pseries => "spapr-vty"
  | .s390Ccw => "sclpconsole"
  | .armVirt _ => "pl011"

/-- The bus of a serial port, and its name for the guest. -/
def serialBus (name : String) (p : Parameters) (type : String) :
    Except CompileError (BusRequest × Option String) :=
  match type with
  | "isa-serial" => .ok (.isaSerial, none)
  | "spapr-vty" | "sclpconsole" | "pl011" => .ok (.none, none)
  | "virtconsole" | "virtserialport" => .ok (.virtioSerial, some (p.getD "serial_name" name))
  | _ => .error (invalid "serial_type" name type "a serial port type")

def serial (vmName : String) (p : Parameters) (t : Target m) (name : String) :
    Compiling H I m DeviceParts := do
  let p := p.scopedTo name
  let driver := p.getD "serial_type" (defaultSerial t.family)
  let (bus, portName) ← serialBus name p driver
  let chardev ← channel vmName name p
  let d ← device t (.bare name driver (.serial chardev.id portName)) bus p
  return ⟨[d], [], [chardev]⟩

/-! ## Random numbers -/

/-- What random numbers come from, and the channel to it. -/
def rngBackend (vmName name : String) (p : Parameters) :
    Compiling H I m (ObjectKind × List Chardev) := do
  match p.getD "backend_rng" "rng-random" with
  | "rng-random" => return (.rngRandom (p.getD "filename_rng" "/dev/urandom"), [])
  | "rng-builtin" => return (.rngBuiltin, [])
  | "rng-egd" =>
    let chardev ← channel vmName name (p.insert "chardev_backend" "tcp_socket")
    return (.rngEgd chardev.id, [chardev])
  | other => throw (invalid "backend_rng" name other "rng-random, rng-builtin or rng-egd")

def rng (vmName : String) (p : Parameters) (t : Target m) (name : String) :
    Compiling H I m DeviceParts := do
  let p := p.scopedTo name
  let (kind, chardevs) ← rngBackend vmName name p
  t.requireObject kind.typeName
  let id := "rng_" ++ name
  let maxBytes ← p.uint64? "max-bytes_rng"
  let period ← p.uint64? "period_rng"
  let node := DeviceNode.bare name (t.virtio "virtio-rng") (.rng ⟨id, maxBytes, period⟩)
  let d ← device t node .virtio p
  return ⟨[d], [⟨id, kind⟩], chardevs⟩

/-! ## Trusted platform modules -/

def tpmBackend (vmName name : String) (p : Parameters) :
    Compiling H I m (ObjectKind × List Chardev) := do
  match p.getD "tpm_type" "emulator" with
  | "emulator" =>
    let socket := (p.insert "chardev_backend" "unix_socket").insert "chardev_server" "no"
    let socket := match p.get? "tpm_socket_path" with
      | some path => socket.insert "chardev_path" path
      | none => socket
    let chardev ← channel vmName name socket
    return (.tpmEmulator chardev.id, [chardev])
  | "passthrough" => return (.tpmPassthrough (p.getD "tpm_device_path" "/dev/tpm0"), [])
  | other => throw (invalid "tpm_type" name other "emulator or passthrough")

def defaultTpm? : MachineFamily → Option String
  | .i440fx | .q35 | .microvm => some "tpm-crb"
  | .armVirt _ => some "tpm-tis-device"
  | .pseries => some "tpm-spapr"
  | .s390Ccw => none

def tpm (vmName : String) (p : Parameters) (t : Target m) (name : String) :
    Compiling H I m DeviceParts := do
  let p := p.scopedTo name
  let (kind, chardevs) ← tpmBackend vmName name p
  match defaultTpm? t.family with
  | none => throw (t.unsupported ("TPM " ++ name))
  | some default =>
    let id := "tpm_" ++ name
    let d ← device t (.bare name (p.getD "tpm_model" default) (.tpm id)) .none p
    return ⟨[d], [⟨id, kind⟩], chardevs⟩

/-! ## Further devices -/

def vsock (p : Parameters) (t : Target m) (name : String) : Compiling H I m DeviceParts := do
  let p := p.scopedTo name
  let explicit ← p.uint32? "guest_cid"
  match explicit.filter (· < HostLeases.firstCid) with
  | some cid =>
    throw (invalid "guest_cid" name (toString cid.toNat) "a context ID of at least 3")
  | none =>
    let cid ← Compiling.leasing fun l => l.vsockCid name explicit
    return .ofDevice (← device t (.bare name (t.virtio "vhost-vsock") (.vsock cid)) .virtio p)

def balloon (p : Parameters) (t : Target m) (name : String) : Compiling H I m DeviceParts := do
  let p := p.scopedTo name
  let id := p.getD "balloon_dev_devid" name
  let deflate ← p.boolD "balloon_opt_deflate_on_oom" false
  let reporting ← p.boolD "balloon_opt_free_page_reporting" false
  let node := DeviceNode.bare id (t.virtio "virtio-balloon") (.balloon deflate reporting)
  return .ofDevice (← device t node .virtio p)

def defaultWatchdog? : MachineFamily → Option String
  | .i440fx | .q35 => some "i6300esb"
  | .s390Ccw => some "diag288"
  | _ => none

def watchdogBus (model : String) : Except CompileError BusRequest :=
  match model with
  | "i6300esb" => .ok (.pci .conventional)
  | "ib700" | "diag288" => .ok .none
  | _ => .error (.invalid "watchdog_device_type" model "i6300esb, ib700 or diag288")

def watchdog (p : Parameters) (t : Target m) : Compiling H I m DeviceParts := do
  if ← p.boolD "enable_watchdog" false then
    match (p.get? "watchdog_device_type").or (defaultWatchdog? t.family) with
    | none => throw (.missing "watchdog_device_type")
    | some model =>
      let bus ← watchdogBus model
      let node := DeviceNode.bare "watchdog0" model (.watchdog (p.getD "watchdog_action" "reset"))
      return .ofDevice (← device t node bus p)
  else return .empty

def inputModel (name : String) (p : Parameters) (t : Target m) (kind : String) :
    Except CompileError (String × BusRequest) :=
  match p.getD "input_dev_bus_type" "usb" with
  | "usb" => .ok (if kind = "keyboard" then "usb-kbd" else "usb-" ++ kind, .usb none)
  | "virtio" => .ok (t.virtio ("virtio-" ++ kind), .virtio)
  | other => .error (invalid "input_dev_bus_type" name other "usb or virtio")

def input (p : Parameters) (t : Target m) (name : String) : Compiling H I m DeviceParts := do
  let p := p.scopedTo name
  let kind := p.getD "input_dev_type" "tablet"
  if kind = "mouse" ∨ kind = "keyboard" ∨ kind = "tablet" then
    let (driver, bus) ← inputModel name p t kind
    return .ofDevice (← device t (.bare name driver .input) bus p)
  else throw (invalid "input_dev_type" name kind "mouse, keyboard or tablet")

/-- The driver of a sound card, and the codec behind it. -/
def soundModel (model : String) : Except CompileError (String × Option String) :=
  match model with
  | "ac97" => .ok ("AC97", none)
  | "es1370" => .ok ("ES1370", none)
  | "intel-hda" => .ok ("intel-hda", some "hda-duplex")
  | _ => .error (.invalid "soundcards" model "ac97, es1370 or intel-hda")

/-- A sound card. Its id is made of its model and its index among the sound cards. -/
def soundcard (p : Parameters) (t : Target m) (index : Nat) (model : String) :
    Compiling H I m DeviceParts := do
  let p := p.scopedTo model
  let (driver, codec) ← soundModel model
  match codec with
  | some codec => t.requireDevice codec
  | none => pure ()
  let base := String.ofList (model.toList.map fun c => if c = '-' then '_' else c)
  let node := DeviceNode.bare (base ++ "_" ++ toString index) driver (.sound codec)
  return .ofDevice (← device t node (.pci .conventional) p)

def usbDevice (p : Parameters) (t : Target m) (name : String) : Compiling H I m DeviceParts := do
  let p := p.scopedTo name
  let node := DeviceNode.bare name (p.getD "usb_type" "usb-tablet") .usb
  return .ofDevice (← device t node (.usb (p.get? "usb_controller")) p)

/-- The driver of a display, or none when there is to be no display. -/
def displayDriver (p : Parameters) (t : Target m) : Except CompileError (Option String) :=
  let default := match t.family with
    | .i440fx | .q35 => "std"
    | _ => "none"
  match p.getD "vga" default with
  | "none" => .ok none
  | "std" => .ok (some "VGA")
  | "cirrus" => .ok (some "cirrus-vga")
  | "qxl" => .ok (some "qxl-vga")
  | "virtio" =>
    if t.family.virtioTransport = .pci then .ok (some "virtio-vga")
    else .ok (some (t.virtio "virtio-gpu"))
  | other => .error (.invalid "vga" other "std, cirrus, qxl, virtio or none")

def display (p : Parameters) (t : Target m) : Compiling H I m DeviceParts := do
  match ← displayDriver p t with
  | none => return .empty
  | some driver =>
    let bus := if (Text.afterLeading? "virtio-gpu" driver).isSome then BusRequest.virtio
      else .pci .integrated
    return .ofDevice (← device t (.bare "video0" driver .display) bus p)

/-! ## All devices -/

def parts (p : Parameters) (key : String) (f : String → Compiling H I m DeviceParts) :
    Compiling H I m DeviceParts := do
  return .join (← (p.objects key).mapM f)

def soundcards (p : Parameters) (t : Target m) : Compiling H I m DeviceParts := do
  return .join (← ((p.objects "soundcards").zipIdx.mapM fun (model, index) =>
    soundcard p t index model))

/-- The devices of a guest, family after family. -/
def build (vmName : String) (p : Parameters) (t : Target m) : Compiling H I m DevicePlan := do
  let usbControllers ← ((p.objects "usbs").mapM (usbController p t) : Build m _)
  let nics ← (p.objects "nics").mapM (nic p t)
  let serials ← parts p "serials" (serial vmName p t)
  let rngs ← parts p "virtio_rngs" (rng vmName p t)
  let tpms ← parts p "tpms" (tpm vmName p t)
  let vsocks ← parts p "vsocks" (vsock p t)
  let balloons ← parts p "balloon" (balloon p t)
  let watchdog ← watchdog p t
  let inputs ← parts p "inputs" (input p t)
  let sounds ← soundcards p t
  let usbDevices ← parts p "usb_devices" (usbDevice p t)
  let display ← display p t
  let all := DeviceParts.join
    [serials, rngs, tpms, vsocks, balloons, watchdog, inputs, sounds, usbDevices, display]
  return ⟨usbControllers, nics, all.devices, all.objects, all.chardevs⟩

end DevicePlan

end GuestSpec

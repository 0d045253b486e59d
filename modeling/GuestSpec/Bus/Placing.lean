import GuestSpec.Bus.Allocator

/-!
# Placing devices

Finds a place for a device on the kind of bus it needs. A controller that provides the bus is
inserted, and placed in turn, when there is none with room.
-/

namespace GuestSpec.Alloc

/-! ## PCI -/

/-- Inserts a root port in the root complex and gives its bus. -/
def addRootPort : Alloc BusId := do
  let a ← get
  let id := BusAllocator.numbered "pcie-root-port-" a.rootPorts
  let placement ← claimNext id a.family.rootBus
  if 255 < a.rootPorts + 1 then throw (exhausted a.family.rootBus)
  modify fun a => { a with rootPorts := a.rootPorts + 1 }
  let number := UInt8.ofNat (a.rootPorts + 1)
  addController id "pcie-root-port" (some placement) (.pcieRootPort number number)
    [⟨id, .pcieRootPort, .pci 1, []⟩]
  return id

/-- The bus of the PCIe-to-PCI bridge. The bridge is inserted at the first use, behind a root port
of its own when there are root ports. -/
def pciePciBridge : Alloc BusId := do
  let a ← get
  match a.pciePciBridge with
  | some bus => return bus
  | none =>
    let id := "pcie-pci-bridge-0"
    let parent ← if a.config.rootPorts then addRootPort else pure a.family.rootBus
    let placement ← claimNext id parent
    addController id "pcie-pci-bridge" (some placement) .pciePciBridge
      [⟨id, .pciePciBridge, .pciBus, [BusAllocator.slotZeroOf id]⟩]
    modify fun a => { a with pciePciBridge := some id }
    return id

/-- Whether a bus of the flat chain has room. The newest bus keeps one slot for the bridge that
extends the chain. -/
def hasRoom (a : BusAllocator) (newest bus : BusId) : Bool :=
  match a.node? bus with
  | none => false
  | some n =>
    let free := n.freeSlots.length
    free ≠ 0 ∧ ¬(bus = newest ∧ free = 1)

/-- Extends the flat chain by a bridge in the last free slot of its newest bus. -/
def addPciBridge (newest : BusId) : Alloc BusId := do
  let a ← get
  let n := a.pciChain.length - 1
  let slot := (a.node? newest).bind (·.freeSlots.getLast?)
  match slot with
  | some slot =>
    if n < 255 then
      let id := BusAllocator.numbered "pci-bridge-" n
      let placement ← claim id newest (.pci ⟨slot, 0⟩)
      addController id "pci-bridge" (some placement) (.pciBridge (UInt8.ofNat (n + 1)))
        [⟨id, .pciBridge, .pciBus, [BusAllocator.slotZeroOf id]⟩]
      modify fun a => { a with pciChain := a.pciChain ++ [id] }
      return id
    else throw (exhausted newest)
  | none => throw (exhausted newest)

/-- Places a device on the flat chain: on its first bus with room, or behind a new bridge. -/
def placeFlat (owner : String) : Alloc Placement := do
  let a ← get
  let newest := a.pciChain.getLast?.getD a.family.rootBus
  match a.pciChain.find? (hasRoom a newest) with
  | some bus => claimNext owner bus
  | none => claimNext owner (← addPciBridge newest)

/-- Places a device on the PCI bus or at the PCI address that it names. -/
def placePciAt (owner : String) (bus : BusId) (addr : Option PciAddress) : Alloc Placement := do
  match (← get).node? bus with
  | none => throw (unknownBus owner bus)
  | some n =>
    if n.bus.kind.isPci then
      match addr with
      | some addr => claim owner bus (.pci addr)
      | none => claimNext owner bus
    else throw (unknownBus owner bus)

/-- Places a PCI device without coordinates of its own. -/
def placePciNext (owner : String) (kind : PciKind) : Alloc Placement := do
  let a ← get
  if a.family.isExpress then
    match kind with
    | .express =>
      if a.config.rootPorts then claimNext owner (← addRootPort)
      else claimNext owner a.family.rootBus
    | .conventional =>
      if a.config.pciePciBridge then claimNext owner (← pciePciBridge)
      else claimNext owner a.family.rootBus
    | .integrated => claimNext owner a.family.rootBus
  else placeFlat owner

def placePci (owner : String) (kind : PciKind) (hint : PlacementHint) : Alloc Placement := do
  let a ← get
  if a.family.hasPci then
    if hint.pciBus.isSome || hint.pciAddr.isSome then
      placePciAt owner (hint.pciBus.getD a.family.rootBus) hint.pciAddr
    else placePciNext owner kind
  else unsupported ("PCI device " ++ owner)

def placeVirtio (owner : String) (hint : PlacementHint) : Alloc Placement := do
  let a ← get
  match a.family.virtioTransport with
  | .pci => placePci owner .express hint
  | .ccw | .mmio => claimNext owner a.family.rootBus

/-! ## SCSI -/

/-- Inserts a SCSI adapter and gives its bus. -/
def addHba (family : HbaFamily) : Alloc BusId := do
  let a ← get
  let driver := a.hbaDriver family
  let base := String.ofList (driver.toList.map fun c => if c = '-' then '_' else c)
  let id := BusAllocator.numbered base (a.hbaBuses family).length
  let placement ← match family with
    | .virtioScsi => placeVirtio id .empty
    | .lsi => placePci id .conventional .empty
  let targets := a.config.scsiMaxTargets.getD family.defaultGeometry.1
  let luns := a.config.scsiMaxLuns.getD family.defaultGeometry.2
  let bus := id ++ ".0"
  addController id driver (some placement) (.scsiHba family targets luns)
    [⟨bus, .scsi, .scsi targets luns, []⟩]
  modify fun a => { a with hbas := a.hbas ++ [(family, bus)] }
  return bus

def addHbas (family : HbaFamily) : Nat → Alloc Unit
  | 0 => return ()
  | n + 1 => do
    let _ ← addHba family
    addHbas family n

/-- The SCSI adapter with an index, after inserting those that are missing. -/
def hbaAt (owner : String) (family : HbaFamily) (index : Nat) : Alloc BusId := do
  addHbas family (index + 1 - ((← get).hbaBuses family).length)
  let a ← get
  match (a.hbaBuses family)[index]? with
  | some bus => return bus
  | none => throw (unknownBus owner (a.hbaDriver family))

def firstScsi? (a : BusAllocator) (target lun : Option UInt16) (buses : List BusId) :
    Option (BusId × Coordinate) :=
  buses.findSome? fun bus => do
    let n ← a.node? bus
    let c ← n.firstFreeScsi? target lun
    return (bus, c)

/-- Places a device on a SCSI bus. Coordinates without an adapter are those of the first one. -/
def placeScsi (owner : String) (family : HbaFamily) (hint : PlacementHint) : Alloc Placement := do
  let a ← get
  if family = .lsi ∧ ¬a.family.hasPci then unsupported (a.hbaDriver family)
  let target := hint.driveUnit
  let lun := hint.drivePort
  let pinned := match hint.driveBus with
    | some index => some index.toNat
    | none => if target.isSome || lun.isSome then some 0 else none
  match pinned with
  | some index =>
    let bus ← hbaAt owner family index
    match target, lun with
    | some target, some lun => claim owner bus (.scsi target lun)
    | _, _ =>
      match firstScsi? (← get) target lun [bus] with
      | some (bus, c) => claim owner bus c
      | none => throw (exhausted bus)
  | none =>
    match firstScsi? a none none (a.hbaBuses family) with
    | some (bus, c) => claim owner bus c
    | none =>
      let bus ← addHba family
      match firstScsi? (← get) none none [bus] with
      | some (bus, c) => claim owner bus c
      | none => throw (.collision (.outOfRange owner bus (.scsi 0 0)))

/-! ## IDE and AHCI -/

/-- The buses of the AHCI controller, which is inserted at the first use. -/
def ahciBuses : Alloc (List BusId) := do
  let a ← get
  if a.ahciBuses.isEmpty then
    let id := "ahci0"
    let placement ← placePci id .integrated .empty
    let buses := (List.range 6).map (BusAllocator.numbered (id ++ "."))
    addController id "ich9-ahci" (some placement) .ahci
      (buses.map fun bus => ⟨bus, .ide, .units 1, []⟩)
    modify fun a => { a with ahciBuses := buses }
    return buses
  else return a.ahciBuses

def driveBuses (owner : String) (ahci : Bool) : Alloc (List BusId) := do
  let a ← get
  match a.family, ahci with
  | .q35, false | .i440fx, false => return a.ideBuses
  | .q35, true => return a.ahciBuses
  | .i440fx, true | .armVirt false, true => ahciBuses
  | _, true => unsupported ("AHCI drive " ++ owner)
  | _, false => unsupported ("IDE drive " ++ owner)

def firstOn? (a : BusAllocator) (buses : List BusId) : Option (BusId × Coordinate) :=
  buses.findSome? fun bus => do
    let n ← a.node? bus
    let c ← n.firstFree?
    return (bus, c)

def placeIde (owner : String) (ahci : Bool) (hint : PlacementHint) : Alloc Placement := do
  let buses ← driveBuses owner ahci
  match hint.driveBus with
  | some index =>
    match buses[index.toNat]? with
    | none => throw (unknownBus owner (BusAllocator.numbered "ide." index.toNat))
    | some bus =>
      match hint.driveUnit with
      | some n => claimUnit owner bus n
      | none => claimNext owner bus
  | none =>
    match firstOn? (← get) buses with
    | some (bus, c) => claim owner bus c
    | none => throw (exhausted (if ahci then "ahci" else "ide"))

/-! ## USB -/

def addUsbController (id model : String) (ports : UInt8) (hint : PlacementHint) : Alloc Unit := do
  let kind := if Text.occurs "xhci" model then PciKind.express else .conventional
  let placement ← placePci id kind hint
  let bus := id ++ ".0"
  addController id model (some placement) (.usb model) [⟨bus, .usb, .ports ports, []⟩]
  modify fun a => { a with usb := a.usb ++ [(model, bus)] }

/-- The USB buses that a device may use: the one it names, or those of controllers of the model it
asks for. -/
def usbBuses (owner : String) (controller : Option String) (hint : PlacementHint) :
    Alloc (List BusId) := do
  let a ← get
  match hint.usbBus with
  | some bus =>
    if a.usb.any (·.2 == bus) then return [bus] else throw (unknownBus owner bus)
  | none =>
    return (a.usb.filter fun u => controller.all fun c => Text.occurs c u.1).map (·.2)

/-- Places a device on a USB bus. A controller is inserted when there is none. -/
def placeUsb (owner : String) (controller : Option String) (hint : PlacementHint) :
    Alloc Placement := do
  if (← get).usb.isEmpty then addUsbController "usb0" "qemu-xhci" 4 .empty
  match ← usbBuses owner controller hint with
  | [] =>
    unsupported ("USB device " ++ owner ++ " on a " ++ controller.getD "USB" ++ " controller")
  | first :: rest =>
    match hint.usbPort with
    | some port => claim owner first (.port port)
    | none =>
      match firstOn? (← get) (first :: rest) with
      | some (bus, c) => claim owner bus c
      | none => throw (exhausted first)

/-! ## Floppy drives and serial ports -/

/-- The floppy bus. A controller is inserted on machines that can have one. -/
def floppyBus (owner : String) : Alloc BusId := do
  let a ← get
  match a.floppyBus with
  | some bus => return bus
  | none =>
    if a.family = .q35 then
      let id := "fdc0"
      let bus := id ++ ".0"
      addController id "isa-fdc" none .fdc [⟨bus, .floppy, .units 2, []⟩]
      modify fun a => { a with floppyBus := some bus }
      return bus
    else unsupported ("floppy " ++ owner)

def placeFloppy (owner : String) (hint : PlacementHint) : Alloc Placement := do
  let bus ← floppyBus owner
  match hint.driveUnit with
  | some n => claimUnit owner bus n
  | none => claimNext owner bus

def placeIsaSerial (owner : String) : Alloc Placement := do
  match (← get).node? BusAllocator.isaBus with
  | some _ => claimNext owner BusAllocator.isaBus
  | none => unsupported ("ISA serial port " ++ owner)

/-- The bus of the virtio serial controller, which is inserted at the first use. -/
def virtioSerialBus : Alloc BusId := do
  let a ← get
  match a.virtioSerialBus with
  | some bus => return bus
  | none =>
    let id := "virtio_serial0"
    let placement ← placeVirtio id .empty
    let bus := id ++ ".0"
    addController id (a.family.virtioTransport.driver "virtio-serial") (some placement)
      (.virtioSerial 31) [⟨bus, .virtioSerial, .ports 31, []⟩]
    modify fun a => { a with virtioSerialBus := some bus }
    return bus

/-! ## All devices -/

/-- Places a device. A device that needs no bus has no place. -/
def place (owner : String) (request : BusRequest) (hint : PlacementHint) :
    Alloc (Option Placement) :=
  match request with
  | .none => return none
  | .pci kind => some <$> placePci owner kind hint
  | .virtio => some <$> placeVirtio owner hint
  | .scsi family => some <$> placeScsi owner family hint
  | .ide => some <$> placeIde owner false hint
  | .ahci => some <$> placeIde owner true hint
  | .usb controller => some <$> placeUsb owner controller hint
  | .floppy => some <$> placeFloppy owner hint
  | .isaSerial => some <$> placeIsaSerial owner
  | .virtioSerial => do return some (← claimNext owner (← virtioSerialBus))

end GuestSpec.Alloc

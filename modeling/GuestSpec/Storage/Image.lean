import GuestSpec.Device.Unplaced
import GuestSpec.Document.Instance
import GuestSpec.Storage.Chain
import GuestSpec.Storage.Locator
import GuestSpec.Storage.Throttle

/-!
# Images

The options of an image, the two forms of its backend, and the device that shows it.
-/

namespace GuestSpec.Storage

/-- The options of an image, which do not depend on the form of its backend. -/
structure ImageOptions where
  format : ImageFormat
  cache : CacheMode
  readOnly : Bool
  aio : Aio
  copyOnRead : Bool
  throttleGroup : Option String
  secret : Option String
  deriving DecidableEq, Inhabited

/-- A parameter that is one of several names. -/
def namedParameter {α : Type} [Named α] (p : Parameters) (key object default expected : String) :
    Except Parameters.Error α :=
  let raw := p.getD key default
  match Named.ofName? raw with
  | some a => .ok a
  | none => .error (.invalid (scopedKey key object) raw expected)

def throttleGroupOf (image : String) (p : Parameters) (groups : List ObjectSpec) :
    Except Parameters.Error (Option String) :=
  match p.get? "image_throttle_group" with
  | none => .ok none
  | some group =>
    if groups.any (·.id == group) then .ok (some group)
    else .error
      (.invalid (scopedKey "image_throttle_group" image) group "a group listed in throttle_groups")

def ImageOptions.ofParameters (image : String) (media : Media) (p : Parameters)
    (groups : List ObjectSpec) : Except Parameters.Error ImageOptions := do
  let format ← match media with
    | .disk => namedParameter p "image_format" image "qcow2" "an image format"
    | .cdrom | .floppy => pure ImageFormat.raw
  let cache ← namedParameter p "drive_cache" image "none" "a cache mode"
  let aio ← namedParameter p "image_aio" image "threads" "threads, native or io_uring"
  let throttleGroup ← throttleGroupOf image p groups
  let readOnly ← if media = .cdrom then pure true else p.boolD "image_readonly" false
  let copyOnRead ← p.boolD "image_copy_on_read" false
  return ⟨format, cache, readOnly, aio, copyOnRead, throttleGroup, p.get? "image_secret"⟩

/-- Whether a node does input and output of its own. -/
def hasAio : ProtocolNode → Bool
  | .file .. | .hostDevice .. => true
  | _ => false

/-- Sets the engine of a node that has one. -/
def withAio (aio : Aio) : ProtocolNode → ProtocolNode
  | .file filename _ => .file filename (some aio)
  | .hostDevice filename _ => .hostDevice filename (some aio)
  | node => node

/-- Why the options of an image do not go together, if they do not. -/
def ImageOptions.conflict? (o : ImageOptions) (data : ProtocolNode) : Option String :=
  if o.copyOnRead ∧ o.readOnly then some "copy-on-read requires a writable image"
  else if o.format = .luks ∧ o.secret.isNone then some "luks images require image_secret"
  else if hasAio data ∧ o.aio = .native ∧ ¬o.cache.direct then
    some "native AIO requires cache=none or cache=directsync"
  else none

/-! ## Backends -/

/-- The protocol nodes at the bottom of a chain. -/
def Chain.locate (c : Chain) (image : String) (aio : Aio) : Locator → Chain
  | .plain node => c.protocol ("file_" ++ image) (withAio aio node)
  | .blkdebug config inner =>
    (c.protocol ("file_" ++ image) (withAio aio inner)).protocol ("blkdebug_" ++ image)
      (.blkdebug config ("file_" ++ image))

/-- The chain of an image. A raw image needs no format node when devices can be attached to its
protocol node. -/
def layeredBackend (image : String) (locator : Locator) (o : ImageOptions) (rawAttach : Bool)
    (secretId : Option String) : StorageBackend :=
  let c := (Chain.start o.readOnly o.cache).locate image o.aio locator
  let c := if o.format = .raw ∧ rawAttach then c else c.format ("drive_" ++ image) o.format secretId
  let c := if o.copyOnRead then c.copyOnRead ("cor_" ++ image) else c
  let c := match o.throttleGroup with
    | some group => c.throttle ("throttle_" ++ image) group
    | none => c
  c.backend

def legacyBackend (image file : String) (locator : Locator) (o : ImageOptions)
    (secretId : Option String) : StorageBackend :=
  .legacy {
    id := "drive_" ++ image
    file := file
    format := some o.format
    interface := .none
    cache := o.cache
    readOnly := o.readOnly
    aio := if hasAio locator.data then some o.aio else none
    copyOnRead := o.copyOnRead
    throttlingGroup := o.throttleGroup
    keySecret := secretId }

/-! ## Front ends -/

def usbBus (p : Parameters) : BusRequest := .usb (p.get? "usb_controller")

def diskFrontEnd? {m : Type → Type} (p : Parameters) (t : Target m) :
    String → Option (String × BusRequest)
  | "virtio" => some (t.virtio "virtio-blk", .virtio)
  | "scsi-hd" => some ("scsi-hd", .scsi .virtioScsi)
  | "lsi-scsi" => some ("scsi-hd", .scsi .lsi)
  | "ide" => some ("ide-hd", .ide)
  | "ahci" => some ("ide-hd", .ahci)
  | "usb2" | "usb3" => some ("usb-storage", usbBus p)
  | "nvme" => some ("nvme", .pci .express)
  | "floppy" => some ("floppy", .floppy)
  | _ => none

def cdromFrontEnd? (p : Parameters) : String → Option (String × BusRequest)
  | "scsi-cd" => some ("scsi-cd", .scsi .virtioScsi)
  | "ide-cd" => some ("ide-cd", .ide)
  | "ahci" => some ("ide-cd", .ahci)
  | "usb2" => some ("usb-storage", usbBus p)
  | _ => none

def defaultCdFormat : MachineFamily → String
  | .i440fx => "ide-cd"
  | .q35 => "ahci"
  | _ => "scsi-cd"

def knownFrontEnd (key image raw : String) :
    Option (String × BusRequest) → Except CompileError (String × BusRequest)
  | some frontEnd => .ok frontEnd
  | none => .error (.invalid (scopedKey key image) raw "a supported drive format")

/-- The model of the device that shows an image, and the bus it needs. -/
def frontEnd {m : Type → Type} (image : String) (media : Media) (p : Parameters) (t : Target m) :
    Except CompileError (String × BusRequest) :=
  match media with
  | .disk =>
    let raw := p.getD "drive_format" "virtio"
    knownFrontEnd "drive_format" image raw (diskFrontEnd? p t raw)
  | .cdrom =>
    let raw := p.getD "cd_format" (defaultCdFormat t.family)
    knownFrontEnd "cd_format" image raw (cdromFrontEnd? p raw)
  | .floppy => .ok ("floppy", .floppy)

/-! ## Locators -/

def dropSlashes (s : String) : String :=
  String.ofList (s.toList.reverse.dropWhile (· == '/')).reverse

/-- Puts a relative path into the directory for images, if there is one. -/
def inBaseDir (p : Parameters) (file : String) : String :=
  match p.get? "images_base_dir" with
  | some dir =>
    if (Text.afterLeading? "/" file).isSome ∨ Text.occurs "://" file then file
    else dropSlashes dir ++ "/" ++ file
  | none => file

/-- The locator of an image. A drive without a medium has none. -/
def imageLocator (image : String) (media : Media) (p : Parameters) (format : ImageFormat) :
    Except Parameters.Error (Option String) :=
  match media with
  | .cdrom => .ok (p.get? "cdrom")
  | .floppy => .ok (p.get? "floppy_name")
  | .disk =>
    match p.get? "image_filename" with
    | some file => .ok (some file)
    | none => do
      let name := p.getD "image_name" image
      let rawDevice ← p.boolD "image_raw_device" false
      let file := if rawDevice then name else name ++ "." ++ Named.name format
      return some (inBaseDir p file)

end GuestSpec.Storage

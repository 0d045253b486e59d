import GuestSpec.Storage.Image

/-!
# Storage plans

The images of a guest in the order of their declaration, and the objects that they refer to.
-/

namespace GuestSpec

structure UnplacedDisk where
  name : String
  media : Media
  backend : StorageBackend
  device : UnplacedDevice
  deriving DecidableEq, Inhabited

/-- The images of a guest, and the groups and secrets that they refer to. -/
structure StoragePlan where
  disks : List UnplacedDisk
  objects : List ObjectSpec
  deriving DecidableEq, Inhabited

namespace Storage

/-- How backends are built on a hypervisor. -/
structure Mode where
  layered : Bool
  rawAttach : Bool
  deriving DecidableEq, Inhabited

variable {m : Type → Type} [Monad m]

def Mode.ofTarget (t : Target m) : Build m Mode := do
  let layered ← t.probe .blockdev
  let rawAttach ← t.probe .rawProtocolAttach
  return ⟨layered, rawAttach⟩

/-- The secret that unlocks an encrypted image. -/
def imageSecret (image : String) (o : ImageOptions) (t : Target m) :
    Build m (Option ObjectSpec) := do
  match o.secret with
  | some data =>
    if o.format = .luks then
      t.requireObject "secret"
      return some ⟨"sec_" ++ image, .secret ⟨data, "raw"⟩⟩
    else return none
  | none => return none

def mediumBackend (image file : String) (o : ImageOptions) (t : Target m) (mode : Mode) :
    Build m (StorageBackend × Option ObjectSpec) := do
  match classify image file with
  | .error e => throw (.locator e)
  | .ok locator =>
    match o.conflict? locator.data with
    | some reason => throw (.unsupported (.conflict image reason))
    | none =>
      let secret ← imageSecret image o t
      let secretId := secret.map ObjectSpec.id
      let backend :=
        if mode.layered then layeredBackend image locator o mode.rawAttach secretId
        else legacyBackend image file locator o secretId
      return (backend, secret)

def imageBackend (image : String) (media : Media) (p : Parameters) (o : ImageOptions) (t : Target m)
    (mode : Mode) : Build m (StorageBackend × Option ObjectSpec) := do
  match ← imageLocator image media p o.format with
  | none => return (.empty, none)
  | some file => mediumBackend image file o t mode

/-- An image, from the parameters as the image sees them, and its secret. -/
def buildImage (image : String) (media : Media) (p : Parameters) (t : Target m)
    (groups : List ObjectSpec) (mode : Mode) : Build m (UnplacedDisk × Option ObjectSpec) := do
  let o ← ImageOptions.ofParameters image media p groups
  let (driver, bus) ← frontEnd image media p t
  t.requireDevice driver
  let (backend, secret) ← imageBackend image media p o t mode
  let serial := match p.get? "drive_serial" with
    | some serial => some serial
    | none => if driver = "nvme" then some image else none
  let removable ← p.boolD "image_removable" false
  let extra ← p.properties "blk_extra_params"
  let request ← DeviceRequest.ofParameters bus p
  let props : DiskProps := ⟨backend.top?, none, serial, o.readOnly, removable⟩
  return (⟨image, media, backend, ⟨⟨image, driver, none, .disk props, extra⟩, request⟩⟩, secret)

def images (p : Parameters) : List (String × Media) :=
  (p.objects "images").map (·, .disk) ++ (p.objects "cdroms").map (·, .cdrom) ++
    (p.objects "floppies").map (·, .floppy)

/-- The storage of a guest. Objects come in the order in which they are needed: groups first. -/
def build (p : Parameters) (t : Target m) : Build m StoragePlan := do
  let mode ← Mode.ofTarget t
  let groups ← throttleGroups p t
  let built ← (images p).mapM fun (image, media) =>
    buildImage image media (p.scopedTo image) t groups mode
  return ⟨built.map (·.1), groups ++ built.filterMap (·.2)⟩

end Storage

end GuestSpec

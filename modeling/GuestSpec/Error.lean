import GuestSpec.Document.Address
import GuestSpec.Topology

/-!
# Errors

The reasons why a compilation stops, and what is said about each.
-/

namespace GuestSpec

/-- A place or number that was asked for and cannot be had. -/
inductive AddressCollision where
  | inUse (device : String) (placement : Placement) (owner : String)
  | outOfRange (device : String) (bus : BusId) (coordinate : Coordinate)
  | unitOutOfRange (device : String) (bus : BusId) (number : UInt16)
  | unknownBus (device bus : String)
  | bootIndexInUse (device : String) (index : UInt32) (owner : String)
  | cidInUse (device : String) (cid : UInt32) (owner : String)
  | portInUse (device : String) (port : UInt16) (owner : String)
  deriving DecidableEq

def AddressCollision.message : AddressCollision → String
  | .inUse device placement owner =>
    device ++ " cannot use " ++ placement.text ++ ": already used by " ++ owner
  | .outOfRange device bus coordinate =>
    device ++ ": " ++ coordinate.text ++ " is outside the address space of " ++ bus
  | .unitOutOfRange device bus number =>
    device ++ ": unit " ++ toString number.toNat ++ " is outside the address space of " ++ bus
  | .unknownBus device bus => device ++ ": no bus named " ++ bus
  | .bootIndexInUse device index owner =>
    device ++ " cannot use boot index " ++ toString index.toNat ++ ": already used by " ++ owner
  | .cidInUse device cid owner =>
    device ++ " cannot use vsock CID " ++ toString cid.toNat ++ ": already used by " ++ owner
  | .portInUse device port owner =>
    device ++ " cannot use host port " ++ toString port.toNat ++ ": already used by " ++ owner

/-- Something that the hypervisor or the machine does not provide. -/
inductive UnsupportedDevice where
  | notAvailable (kind name : String)
  | machine (what machineType : String)
  | missingCapability (what : String) (capability : Capability)
  | conflict (object reason : String)
  deriving DecidableEq

def UnsupportedDevice.message : UnsupportedDevice → String
  | .notAvailable kind name =>
    kind ++ " " ++ Text.quoted name ++ " is not available in the target hypervisor"
  | .machine what machineType => what ++ " cannot be used on " ++ machineType ++ " machines"
  | .missingCapability what capability =>
    what ++ " requires capability " ++ Named.name capability
  | .conflict object reason => object ++ ": " ++ reason

inductive LocatorError where
  | empty (image : String)
  | unknownScheme (image locator : String)
  | malformed (image scheme locator reason : String)
  deriving DecidableEq

def LocatorError.message : LocatorError → String
  | .empty image => "image " ++ image ++ " has an empty locator"
  | .unknownScheme image locator =>
    "image " ++ image ++ ": unrecognized locator " ++ Text.quoted locator
  | .malformed image scheme locator reason =>
    "image " ++ image ++ ": malformed " ++ scheme ++ " locator " ++ Text.quoted locator ++ ": " ++
      reason

inductive ResourceLimit where
  | memoryBelowMinimum (requested minimum : UInt64)
  | maxMemExceeded (requested available : UInt64)
  | memorySlotsExhausted (requested available : UInt32)
  | busExhausted (bus : String)
  | hostExhausted (what : String) (low high : UInt32)
  deriving DecidableEq

def ResourceLimit.message : ResourceLimit → String
  | .memoryBelowMinimum requested minimum =>
    "requested memory of " ++ toString requested.toNat ++ " MiB is below the minimum of " ++
      toString minimum.toNat ++ " MiB"
  | .maxMemExceeded requested available =>
    "memory devices need " ++ toString requested.toNat ++ " MiB of maxmem, but maxmem is " ++
      toString available.toNat ++ " MiB"
  | .memorySlotsExhausted requested available =>
    toString requested.toNat ++ " DIMMs requested, but only " ++ toString available.toNat ++
      " slots exist"
  | .busExhausted bus => "bus " ++ bus ++ " has no free coordinate"
  | .hostExhausted what low high =>
    "no free " ++ what ++ " in " ++ toString low.toNat ++ "-" ++ toString high.toNat

/-- Why a compilation stops. -/
inductive CompileError where
  | param (e : Parameters.Error)
  | topology (e : TopologyError)
  | collision (e : AddressCollision)
  | unsupported (e : UnsupportedDevice)
  | locator (e : LocatorError)
  | limit (e : ResourceLimit)
  /-- A number does not fit its type. -/
  | overflow
  deriving DecidableEq

namespace CompileError

def message : CompileError → String
  | param e => e.message
  | topology e => e.message
  | collision e => e.message
  | unsupported e => e.message
  | locator e => e.message
  | limit e => e.message
  | overflow => "arithmetic overflow"

def ofParameters {α : Type} (x : Except Parameters.Error α) : Except CompileError α :=
  x.mapError param

instance : MonadLift (Except Parameters.Error) (Except CompileError) where
  monadLift := ofParameters

instance {m : Type → Type} [Monad m] :
    MonadLift (Except CompileError) (ExceptT CompileError m) where
  monadLift x := ExceptT.mk (pure x)

def invalid (key value expected : String) : CompileError := param (.invalid key value expected)

def missing (key : String) : CompileError := param (.missing key)

def noDevice (name : String) : CompileError := unsupported (.notAvailable "device" name)

def noObject (name : String) : CompileError := unsupported (.notAvailable "object" name)

/-- Something that a machine cannot carry. -/
def notOn (machine what : String) : CompileError := unsupported (.machine what machine)

end CompileError

end GuestSpec

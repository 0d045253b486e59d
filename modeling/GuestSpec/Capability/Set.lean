import GuestSpec.Capability.Basic
import GuestSpec.Toml.Reader

/-!
# Sets of capabilities

A description of a hypervisor that does not need the hypervisor: its version and the names of what
it has. Capabilities that show in the version or in a device need not be listed.
-/

namespace GuestSpec

open Json

/-- Puts a name in its place in a sorted list without repetitions. -/
def insertName (name : String) : List String → List String
  | [] => [name]
  | n :: rest =>
    if name < n then name :: n :: rest
    else if name = n then n :: rest
    else n :: insertName name rest

/-- The names of a list in increasing order of code points, each once. -/
def sortNames (names : List String) : List String := names.foldr insertName []

/-- What is known about a hypervisor. -/
structure CapabilitySet where
  version : Option Version
  /-- Capabilities that are there in any case, in the order of the type. -/
  flags : List Capability
  devices : List String
  objects : List String
  deriving DecidableEq

namespace CapabilitySet

/-- The set with the given contents, each sorted. -/
def ofLists (version : Option Version) (flags : List Capability) (devices objects : List String) :
    CapabilitySet :=
  ⟨version, (Named.all : List Capability).filter (flags.contains ·), sortNames devices,
    sortNames objects⟩

def empty : CapabilitySet := ⟨none, [], [], []⟩

instance : Inhabited CapabilitySet := ⟨empty⟩

def fieldNames : List String := ["version", "flags", "devices", "objects"]

instance : Codec CapabilitySet where
  encode s := .obj <|
    field "version" s.version ++ field "flags" s.flags ++ field "devices" s.devices ++
      field "objects" s.objects
  read? p := do
    let r ← record? fieldNames p
    return ofLists (← r.get? "version") (← r.getD "flags" []) (← r.getD "devices" [])
      (← r.getD "objects" [])

/-- Whether a capability shows in the version or in a device. -/
def derives (s : CapabilitySet) (c : Capability) : Bool :=
  match c.gate with
  | .help _ => false
  | .version i => i.containsKnown s.version
  | .device name => s.devices.contains name

def has (s : CapabilitySet) (c : Capability) : Bool := s.flags.contains c || s.derives c

def oracle {m : Type → Type} [Monad m] (s : CapabilitySet) : Oracle m where
  probe c := pure (s.has c)
  inInterval i := pure (i.containsKnown s.version)
  hasDevice name := pure (s.devices.contains name)
  hasObject name := pure (s.objects.contains name)
  version := pure s.version

/-- Keeps what an effectful test accepts. -/
def filterM {m : Type → Type} [Monad m] {α : Type} (p : α → m Bool) : List α → m (List α)
  | [] => pure []
  | a :: as => do
    let keep ← p a
    let rest ← filterM p as
    return if keep then a :: rest else rest

/-- The answers of an oracle about all capabilities and about some names. -/
def snapshot {m : Type → Type} [Monad m] (o : Oracle m) (devices objects : List String) :
    m CapabilitySet := do
  let version ← o.version
  let flags ← filterM o.probe Named.all
  let devices ← filterM o.hasDevice devices
  let objects ← filterM o.hasObject objects
  return ofLists version flags devices objects

/-! ## In configuration files -/

def text? : Toml.Value → Option String
  | .string s => some s
  | _ => none

/-- A capability: its name, or a table with this name alone, which holds nothing. -/
def capability? : Toml.Value → Option Capability
  | .string s => Named.ofName? s
  | .table _ [(s, .table _ [])] => Named.ofName? s
  | .table _ [(s, .array [])] => Named.ofName? s
  | _ => none

/-- The items of a list of a configuration file, which is empty when it is not there. -/
def items? {α : Type} (entries : Toml.Entries) (name : String) (item? : Toml.Value → Option α) :
    Option (List α) :=
  match entries.lookup name with
  | none => some []
  | some (.array items) => items.mapM item?
  | some (.tables items) => items.mapM fun es => item? (.table .header es)
  | some _ => none

def version? (entries : Toml.Entries) : Option (Option Version) :=
  match entries.lookup "version" with
  | none => some none
  | some (.string s) => (Version.parse? s).map some
  | some _ => none

def ofToml? (s : String) : Option CapabilitySet := do
  let entries ← Toml.parse? s
  if entries.any fun e => !fieldNames.contains e.1 then none
  return ofLists (← version? entries) (← items? entries "flags" capability?)
    (← items? entries "devices" text?) (← items? entries "objects" text?)

end CapabilitySet

end GuestSpec

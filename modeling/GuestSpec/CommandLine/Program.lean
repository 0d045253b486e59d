import GuestSpec.Capability.Script
import GuestSpec.CommandLine.Options
import GuestSpec.Compile
import GuestSpec.Json.Printer
import GuestSpec.Parameters.File

/-!
# The program

Compiles a file of parameters into the document of a guest and prints it. The program ends with 0
when it printed a document, with 1 when the document cannot be made, with 2 when its command line
is wrong, and with 101 when a number leaves its range.
-/

namespace GuestSpec

/-- How hypervisors are asked. -/
structure Hypervisors (m : Type → Type) where
  /-- What may change while a hypervisor is asked. -/
  State : Type
  /-- What runs the queries of a hypervisor. -/
  backend : String → m (Probe.Backend State × State)

/-- What the program finds around it. -/
structure Surroundings (m : Type → Type) (H : Type := Host) where
  /-- The text in a file. -/
  read : String → m (Option String)
  /-- The host, if nothing is said about it. -/
  host : m H
  /-- The seed of identifiers, if none is given. -/
  seed : m UInt64

structure Outcome where
  status : UInt32
  output : String
  errors : String
  deriving DecidableEq, Inhabited

namespace Program

/-- Why there is no document. -/
inductive Failure where
  | parameters (file : String) (e : Parameters.LoadError)
  | capsUnreadable (file : String)
  | capsMalformed (file : String)
  | noHypervisor
  | compile (vmName : String) (e : CompileError)
  deriving DecidableEq

def Failure.message : Failure → String
  | parameters file e => "loading " ++ file ++ ": " ++ e.message
  | capsUnreadable file => "reading " ++ file ++ ": file not found"
  | capsMalformed file => "parsing " ++ file ++ ": malformed document"
  | noHypervisor => "one of --caps or --qemu is required"
  | compile vmName e => "compiling " ++ vmName ++ ": " ++ e.message

def Failure.status : Failure → UInt32
  | compile _ .overflow | compile _ (.topology .overflow) => 101
  | _ => 1

section Compiling

variable {m : Type → Type} [Monad m] {H I : Type} [HostResources H] [Identifiers I]

/-- The answers of a hypervisor's script. One that is not there answers nothing. -/
def scripted (source : Option String) : Probe.Backend Unit where
  query q := return source.bind (Script.answer? · q)

/-- Hypervisors that answer out of scripts. Only a path names a script. -/
def scripts (read : String → m (Option String)) : Hypervisors m where
  State := Unit
  backend name := do
    let source ← if name.toList.contains '/' then read name else pure none
    return (scripted source, ())

/-- Compiles with the answers of an oracle that the options name. -/
def compileFor (read : String → m (Option String)) (hypervisors : Hypervisors m) (o : Options)
    (host : H) (vmName : String) (p : Parameters) (ids : I) : ExceptT Failure m InstanceSpec := do
  let result ← match o.caps, o.hypervisor with
    | some file, _ => do
      let some text ← (read file : m _) | throw (.capsUnreadable file)
      let some caps := CapabilitySet.ofToml? text | throw (.capsMalformed file)
      pure (Id.run (compile caps.oracle host vmName p ids)).1
    | none, some hypervisor => do
      let (backend, state) ← (hypervisors.backend hypervisor : m _)
      pure ((compile (Probe.oracle backend) host vmName p ids).run (.start state)).1.1
    | none, none => throw .noHypervisor
  match result with
  | .ok spec => return spec
  | .error e => throw (.compile vmName e)

def document (s : Surroundings m H) (hypervisors : Hypervisors m) (o : Options) :
    ExceptT Failure m InstanceSpec := do
  let file := o.params.getD ""
  let p ← match Parameters.ofFile file (← s.read file) with
    | .ok p => pure p
    | .error e => throw (.parameters file e)
  let ids ← match o.sequentialIds, o.seed with
    | true, _ => pure IdSource.counting
    | false, some seed => pure (IdSource.ofSeed seed)
    | false, none => do pure (IdSource.ofSeed (← s.seed))
  let vmName := o.vmName.getD "vm1"
  match o.hostMemory with
  | some mib => compileFor s.read hypervisors o (Host.idle mib) vmName p ids
  | none => compileFor s.read hypervisors o (← s.host) vmName p ids

end Compiling

def help : String := "Compile a test parameter file into a VM hardware specification

Usage: vmspec-compile [OPTIONS] [PARAMS]

Arguments:
  [PARAMS]  Parameter file: TOML, or \x60key = value\x60 lines

Options:
      --caps <CAPS>                Capability snapshot (TOML) describing the target hypervisor
      --qemu <QEMU>                Probe this hypervisor for capabilities instead
      --vm-name <VM_NAME>          Instance name [default: vm1]
      --host-memory <HOST_MEMORY>  Usable host memory (MiB); read from the running host when absent
      --seed <SEED>                Seed for generated UUIDs and MAC addresses
      --sequential-ids             Generate UUIDs and MAC addresses from a counter
  -d, --debug                      Enable debugging
  -h, --help                       Print help
  -V, --version                    Print version
"

def version : String := "vmspec-compile 0.1.0\n"

/-- Runs the program. Hypervisors are asked by their scripts unless they are asked otherwise. -/
def run {m : Type → Type} [Monad m] {H : Type} [HostResources H] (s : Surroundings m H)
    (args : List String) (hypervisors : Hypervisors m := scripts s.read) : m Outcome := do
  match Request.ofArguments args with
  | .error e => return ⟨2, "", "error: " ++ e.message ++ "\n"⟩
  | .ok .help => return ⟨0, help, ""⟩
  | .ok .version => return ⟨0, version, ""⟩
  | .ok (.compile o) =>
    match ← (document s hypervisors o).run with
    | .ok spec => return ⟨0, (encode spec).pretty ++ "\n", ""⟩
    | .error e => return ⟨e.status, "", "Error: " ++ e.message ++ "\n"⟩

end Program

end GuestSpec

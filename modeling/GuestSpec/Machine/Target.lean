import GuestSpec.Error

/-!
# Targets

What a guest is built for: a machine type, and a hypervisor that is asked what it provides.
-/

namespace GuestSpec

/-- A step of a compilation that asks the hypervisor and may fail. -/
abbrev Build (m : Type → Type) := ExceptT CompileError m

/-- A machine type on a hypervisor. -/
structure Target (m : Type → Type) where
  oracle : Oracle m
  family : MachineFamily
  machineType : String

def machineType? (raw : String) : Option (String × MachineFamily) :=
  let startsWith := fun p => (Text.afterLeading? p raw).isSome
  match Text.afterLeading? "arm64-pci:" raw, Text.afterLeading? "arm64-mmio:" raw with
  | some name, _ => some (name, .armVirt false)
  | none, some name => some (name, .armVirt true)
  | none, none =>
    if raw = "pc" ∨ startsWith "pc-i440fx-" then some (raw, .i440fx)
    else if raw = "q35" ∨ startsWith "pc-q35-" then some (raw, .q35)
    else if raw = "microvm" then some (raw, .microvm)
    else if startsWith "virt" then some (raw, .armVirt false)
    else if startsWith "pseries" then some (raw, .pseries)
    else if startsWith "s390-ccw-virtio" then some (raw, .s390Ccw)
    else none

namespace Target

variable {m : Type → Type}

def ofParameters (o : Oracle m) (p : Parameters) : Except Parameters.Error (Target m) :=
  let raw := p.getD "machine_type" "q35"
  match machineType? raw with
  | some (machineType, family) => .ok ⟨o, family, machineType⟩
  | none => .error (.invalid "machine_type" raw "a known machine type")

def unsupported (t : Target m) (what : String) : CompileError := .notOn t.machineType what

/-- The name of a virtio model on the machine. -/
def virtio (t : Target m) (base : String) : String := t.family.virtioTransport.driver base

variable [Monad m]

def requireDevice (t : Target m) (name : String) : Build m Unit := do
  if !(← t.oracle.hasDevice name) then throw (.noDevice name)

def requireObject (t : Target m) (name : String) : Build m Unit := do
  if !(← t.oracle.hasObject name) then throw (.noObject name)

def probe (t : Target m) (c : Capability) : Build m Bool := t.oracle.probe c

end Target

end GuestSpec

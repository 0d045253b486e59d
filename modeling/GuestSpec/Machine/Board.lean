import GuestSpec.Machine.Target
import GuestSpec.Storage.Chain

/-!
# Boards

The firmware of a guest and its machine.
-/

namespace GuestSpec

def MachineFamily.defaultFirmware : MachineFamily → String
  | i440fx | q35 => "bios"
  | armVirt _ => "uefi"
  | pseries => "slof"
  | s390Ccw => "s390-ccw.img"
  | microvm => "qboot.rom"

def MachineFamily.hasUefi : MachineFamily → Bool
  | pseries | s390Ccw => false
  | _ => true

/-- The files of UEFI code and variables for a machine. -/
def MachineFamily.defaultFlash : MachineFamily → String × String
  | armVirt _ => ("/usr/share/AAVMF/AAVMF_CODE.fd", "/usr/share/AAVMF/AAVMF_VARS.fd")
  | _ => ("/usr/share/OVMF/OVMF_CODE.fd", "/usr/share/OVMF/OVMF_VARS.fd")

namespace Board

variable {m : Type → Type} [Monad m]

def uefi (p : Parameters) (t : Target m) : Build m Firmware := do
  let layered ← t.probe .blockdev
  let code := p.getD "ovmf_code_filename" t.family.defaultFlash.1
  let vars := p.getD "ovmf_vars_filename" t.family.defaultFlash.2
  let secureBoot ← p.boolD "secure_boot" false
  return .uefi ⟨code, Storage.flashBackend "ovmf_code" code true 0 layered⟩
    ⟨vars, Storage.flashBackend "ovmf_vars" vars false 1 layered⟩ secureBoot

def firmware (p : Parameters) (t : Target m) : Build m Firmware :=
  let default := t.family.defaultFirmware
  let kind := p.getD "firmware" default
  if kind = "bios" ∧ t.family.isX86 then return .bios (p.get? "bios_path")
  else if kind = "uefi" ∧ t.family.hasUefi then uefi p t
  else if kind = "bios" ∨ kind = "uefi" then throw (t.unsupported (kind ++ " firmware"))
  else if kind = default then return .builtin kind
  else throw (.invalid "firmware" kind "bios, uefi or the machine's built-in firmware")

/-- Whether the machine runs in system management mode: when secure firmware needs it, or when it
is asked for. -/
def smm (p : Parameters) (family : MachineFamily) : Firmware → Except Parameters.Error Bool
  | .uefi _ _ true => if family.isX86 then .ok true else p.boolD "smm" false
  | _ => p.boolD "smm" false

/-- The nodes of flash images that are attached as nodes. -/
def flashNodes : Firmware → Option String × Option String
  | .uefi code vars _ =>
    if code.backend.isLayered then (code.backend.top?, vars.backend.top?) else (none, none)
  | _ => (none, none)

/-- The machine of a guest, apart from its memory. -/
def machine (p : Parameters) (t : Target m) (f : Firmware) : Except CompileError Machine := do
  let smm ← smm p t.family f
  if smm && !t.family.isX86 then throw (t.unsupported "smm")
  let extra ← p.properties "machine_extra_params"
  return {
    machineType := t.machineType
    family := t.family
    accel := p.getD "vm_accel" "kvm"
    memoryBackend := none
    legacyMemPath := none
    nvdimm := false
    smm := smm
    pflash0 := (flashNodes f).1
    pflash1 := (flashNodes f).2
    extra := extra }

/-- One feature of a processor model: a name with a sign; without a sign it is switched on. -/
def cpuFlag (s : String) : CpuFlag :=
  match s.toList with
  | '-' :: name => ⟨String.ofList name, false⟩
  | '+' :: name => ⟨String.ofList name, true⟩
  | _ => ⟨s, true⟩

def cpuFlags (raw : String) : List CpuFlag :=
  (((Text.splitWhere (· == ',') raw).map Text.trim).filter (· != "")).map cpuFlag

def cpu (p : Parameters) (t : Target m) : Build m Cpu := do
  let request ← Topology.Request.ofParameters p
  let rules ← (Topology.Rules.ofOracle t.oracle (t.family == .pseries) : m Topology.Rules)
  match Topology.solve request rules with
  | .error e => throw (.topology e)
  | .ok topology =>
    let model := if p.getD "vm_accel" "kvm" = "kvm" then "host" else "max"
    return {
      model := p.getD "cpu_model" model
      flags := ((p.get? "cpu_model_flags").map cpuFlags).getD []
      topology := topology
      hotplugDevices := request.hotplugDevices }

end Board

end GuestSpec

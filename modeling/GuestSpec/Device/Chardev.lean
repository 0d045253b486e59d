import GuestSpec.Document.Backend
import GuestSpec.Host
import GuestSpec.Parameters.Basic
import GuestSpec.Storage.Image

/-!
# Character devices

The host ends of serial ports, monitors and other channels. A TCP channel leases a port of the
host.
-/

namespace GuestSpec

/-- A step that may hand out resources of a host. A failed step hands out nothing. -/
abbrev Leasing (H : Type) := StateT (HostLeases H) (Except CompileError)

variable {H : Type} [HostResources H]

namespace Chardev

def leasePort (owner : String) (explicit : Option UInt16) : Leasing H UInt16 := fun l =>
  l.tcpPort owner explicit

def defaultPath (p : Parameters) (vmName owner ending : String) : String :=
  Storage.dropSlashes (p.getD "vm_tmp_dir" "/var/tmp") ++ "/" ++ vmName ++ "-" ++ owner ++ ending

/-- The host end of a channel, from the parameters as its owner sees them. -/
def hostEnd (owner vmName : String) (p : Parameters) : Leasing H ChardevBackend := do
  let server ← CompileError.ofParameters (p.boolD "chardev_server" true)
  let wait ← CompileError.ofParameters (p.boolD "chardev_wait" false)
  match p.getD "chardev_backend" "unix_socket" with
  | "unix_socket" =>
    return .unixSocket (p.getD "chardev_path" (defaultPath p vmName owner ".sock")) server wait
  | "tcp_socket" =>
    let explicit ← CompileError.ofParameters (p.uint16? "chardev_port")
    let port ← leasePort owner explicit
    return .tcpSocket (p.getD "chardev_host" "127.0.0.1") port server wait
  | "file" => return .file (p.getD "chardev_path" (defaultPath p vmName owner ".log"))
  | "pty" => return .pty
  | "null" => return .null
  | other =>
    throw (.invalid ("chardev_backend_" ++ owner) other
      "unix_socket, tcp_socket, file, pty or null")

def build (id owner vmName : String) (p : Parameters) : Leasing H Chardev := do
  return ⟨id, ← hostEnd owner vmName p⟩

end Chardev

namespace Monitor

def protocolOf (name : String) (p : Parameters) : Except CompileError MonitorProtocol :=
  let raw := p.getD "monitor_type" "qmp"
  match Named.ofName? raw with
  | some protocol => .ok protocol
  | none => .error (.invalid ("monitor_type_" ++ name) raw "qmp or hmp")

def build (vmName : String) (p : Parameters) (name : String) : Leasing H (Monitor × Chardev) := do
  let p := p.scopedTo name
  let protocol ← protocolOf name p
  let chardev ← Chardev.build ("qmp_id_" ++ name) name vmName p
  return (⟨name, protocol, chardev.id⟩, chardev)

def buildAll (vmName : String) (p : Parameters) : Leasing H (List (Monitor × Chardev)) :=
  (p.objects "monitors").mapM (build vmName p)

end Monitor

end GuestSpec

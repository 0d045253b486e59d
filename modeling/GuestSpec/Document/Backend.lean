import GuestSpec.Json.Codec
import GuestSpec.Text.Map
import GuestSpec.Text.Quoted

/-!
# Backends of devices

The host side of network cards, serial ports and monitors, and the auxiliary objects that devices
and images refer to.
-/

namespace GuestSpec

open Json

/-- A map is written as an object. Of two fields with one name the later counts. -/
instance : Codec TextMap where
  encode m := .obj (m.entries.map fun e => (e.1, .str e.2))
  read?
    | ⟨.obj fields, _⟩ => do
      let entries ← fields.mapM fun
        | (k, .str v) => some (k, v)
        | _ => none
      return TextMap.ofList entries
    | _ => none

/-- A map that is left out when it is empty. -/
def Json.nonemptyMap (name : String) (m : TextMap) : List (String × Json) :=
  if m.isEmpty then [] else field name m

inductive NetdevBackend where
  | user
  | tap (ifname : Option String) (vhost : Bool) (queues : Option UInt32)
  | bridge (br : String)
  deriving DecidableEq, Inhabited

instance : Codec NetdevBackend where
  encode
    | .user => tagging "type" "user" []
    | .tap ifname vhost queues =>
      tagging "type" "tap"
        (optional "ifname" ifname ++ field "vhost" vhost ++ optional "queues" queues)
    | .bridge br => tagging "type" "bridge" (field "br" br)
  read? := tagged? "type" [
    ("user", noFields? .user),
    ("tap", fun p => do
      let r ← record? ["ifname", "vhost", "queues"] p
      return .tap (← r.get? "ifname") (← r.get "vhost") (← r.get? "queues")),
    ("bridge", fun p => do
      let r ← record? ["br"] p
      return .bridge (← r.get "br"))]

/-- The host side of a network card. -/
structure Netdev where
  id : String
  backend : NetdevBackend
  deriving DecidableEq, Inhabited

instance : Codec Netdev where
  encode n := .obj (field "id" n.id ++ field "backend" n.backend)
  read? p := do
    let r ← record? ["id", "backend"] p
    return ⟨← r.get "id", ← r.get "backend"⟩

inductive ChardevBackend where
  | unixSocket (path : String) (server wait : Bool)
  | tcpSocket (host : String) (port : UInt16) (server wait : Bool)
  | file (path : String)
  | pty
  | null
  deriving DecidableEq, Inhabited

instance : Codec ChardevBackend where
  encode
    | .unixSocket path server wait =>
      tagging "backend" "unix_socket"
        (field "path" path ++ field "server" server ++ field "wait" wait)
    | .tcpSocket host port server wait =>
      tagging "backend" "tcp_socket"
        (field "host" host ++ field "port" port ++ field "server" server ++ field "wait" wait)
    | .file path => tagging "backend" "file" (field "path" path)
    | .pty => tagging "backend" "pty" []
    | .null => tagging "backend" "null" []
  read? := tagged? "backend" [
    ("unix_socket", fun p => do
      let r ← record? ["path", "server", "wait"] p
      return .unixSocket (← r.get "path") (← r.get "server") (← r.get "wait")),
    ("tcp_socket", fun p => do
      let r ← record? ["host", "port", "server", "wait"] p
      return .tcpSocket (← r.get "host") (← r.get "port") (← r.get "server") (← r.get "wait")),
    ("file", fun p => do
      let r ← record? ["path"] p
      return .file (← r.get "path")),
    ("pty", noFields? .pty),
    ("null", noFields? .null)]

structure Chardev where
  id : String
  backend : ChardevBackend
  deriving DecidableEq, Inhabited

instance : Codec Chardev where
  encode c := .obj (field "id" c.id ++ field "backend" c.backend)
  read? p := do
    let r ← record? ["id", "backend"] p
    return ⟨← r.get "id", ← r.get "backend"⟩

inductive MonitorProtocol where
  | qmp
  | hmp
  deriving DecidableEq, Inhabited

instance : Named MonitorProtocol where
  all := [.qmp, .hmp]
  name
    | .qmp => "qmp"
    | .hmp => "hmp"

structure Monitor where
  name : String
  protocol : MonitorProtocol
  chardev : String
  deriving DecidableEq, Inhabited

instance : Codec Monitor where
  encode m := .obj (field "name" m.name ++ field "protocol" m.protocol ++ field "chardev" m.chardev)
  read? p := do
    let r ← record? ["name", "protocol", "chardev"] p
    return ⟨← r.get "name", ← r.get "protocol", ← r.get "chardev"⟩

/-- The limits of a throttle group. Limits with other names are kept as text. -/
structure ThrottleLimits where
  iopsTotal : Option UInt64
  iopsRead : Option UInt64
  iopsWrite : Option UInt64
  bpsTotal : Option UInt64
  bpsRead : Option UInt64
  bpsWrite : Option UInt64
  extra : TextMap
  deriving DecidableEq, Inhabited

namespace ThrottleLimits

/-- The names of the limits that are numbers. -/
def names : List String :=
  ["iops-total", "iops-read", "iops-write", "bps-total", "bps-read", "bps-write"]

def empty : ThrottleLimits := ⟨none, none, none, none, none, none, .empty⟩

/-- Each numeric limit occurs at most once; every other limit is a text. -/
instance : Codec ThrottleLimits where
  encode l := .obj <|
    optional "iops-total" l.iopsTotal ++ optional "iops-read" l.iopsRead ++
      optional "iops-write" l.iopsWrite ++ optional "bps-total" l.bpsTotal ++
      optional "bps-read" l.bpsRead ++ optional "bps-write" l.bpsWrite ++
      l.extra.entries.map fun e => (e.1, .str e.2)
  read?
    | ⟨.obj fields, inside⟩ => do
      let r ← record? names ⟨.obj (fields.filter fun f => names.contains f.1), inside⟩
      let extra ← read? ⟨.obj (fields.filter fun f => !names.contains f.1), inside⟩
      return ⟨← r.get? "iops-total", ← r.get? "iops-read", ← r.get? "iops-write",
        ← r.get? "bps-total", ← r.get? "bps-read", ← r.get? "bps-write", extra⟩
    | _ => none

end ThrottleLimits

/-- A secret that other objects refer to. -/
structure Secret where
  data : String
  format : String
  deriving DecidableEq, Inhabited

/-- A description of a secret that does not show its data. -/
def Secret.redacted (s : Secret) : String :=
  "SecretObject \x7b data: \"<redacted>\", format: " ++ Text.quoted s.format ++ " \x7d"

instance : Codec Secret where
  encode s := .obj (field "data" s.data ++ field "format" s.format)
  read? p := do
    let r ← record? ["data", "format"] p
    return ⟨← r.get "data", ← r.get "format"⟩

inductive ObjectKind where
  | secret (s : Secret)
  | throttleGroup (limits : ThrottleLimits)
  | rngRandom (filename : String)
  | rngBuiltin
  | rngEgd (chardev : String)
  | tpmEmulator (chardev : String)
  | tpmPassthrough (path : String)
  deriving DecidableEq, Inhabited

def ObjectKind.typeName : ObjectKind → String
  | secret _ => "secret"
  | throttleGroup _ => "throttle-group"
  | rngRandom _ => "rng-random"
  | rngBuiltin => "rng-builtin"
  | rngEgd _ => "rng-egd"
  | tpmEmulator _ => "tpm-emulator"
  | tpmPassthrough _ => "tpm-passthrough"

instance : Codec ObjectKind where
  encode k :=
    match k with
    | .secret s => taggingRecord "qom_type" k.typeName (encode s)
    | .throttleGroup limits => tagging "qom_type" k.typeName (field "limits" limits)
    | .rngRandom filename => tagging "qom_type" k.typeName (field "filename" filename)
    | .rngBuiltin => tagging "qom_type" k.typeName []
    | .rngEgd chardev => tagging "qom_type" k.typeName (field "chardev" chardev)
    | .tpmEmulator chardev => tagging "qom_type" k.typeName (field "chardev" chardev)
    | .tpmPassthrough path => tagging "qom_type" k.typeName (field "path" path)
  read? := tagged? "qom_type" [
    ("secret", fun p => (read? p).map .secret),
    ("throttle-group", fun p => do
      let r ← record? ["limits"] p
      return .throttleGroup (← r.get "limits")),
    ("rng-random", fun p => do
      let r ← record? ["filename"] p
      return .rngRandom (← r.get "filename")),
    ("rng-builtin", noFields? .rngBuiltin),
    ("rng-egd", fun p => do
      let r ← record? ["chardev"] p
      return .rngEgd (← r.get "chardev")),
    ("tpm-emulator", fun p => do
      let r ← record? ["chardev"] p
      return .tpmEmulator (← r.get "chardev")),
    ("tpm-passthrough", fun p => do
      let r ← record? ["path"] p
      return .tpmPassthrough (← r.get "path"))]

structure ObjectSpec where
  id : String
  kind : ObjectKind
  deriving DecidableEq, Inhabited

instance : Codec ObjectSpec where
  encode o := .obj (field "id" o.id ++ field "kind" o.kind)
  read? p := do
    let r ← record? ["id", "kind"] p
    return ⟨← r.get "id", ← r.get "kind"⟩

end GuestSpec

import GuestSpec.Json.Codec

/-!
# Storage backends

The host side of an image: a chain of block nodes, from the node that reaches the data up to the
node that a device is attached to, or one flat drive record.
-/

namespace GuestSpec

open Json

/-- How the host page cache is used. -/
inductive CacheMode where
  | writeback
  | none
  | writethrough
  | directsync
  | unflushed
  deriving DecidableEq, Inhabited

structure NodeCache where
  direct : Bool
  noFlush : Bool
  deriving DecidableEq, Inhabited

instance : Codec NodeCache where
  encode c := .obj (field "direct" c.direct ++ field "no_flush" c.noFlush)
  read? p := do
    let r ← record? ["direct", "no_flush"] p
    return ⟨← r.get "direct", ← r.get "no_flush"⟩

namespace CacheMode

instance : Named CacheMode where
  all := [.writeback, .none, .writethrough, .directsync, .unflushed]
  name
    | .writeback => "writeback"
    | .none => "none"
    | .writethrough => "writethrough"
    | .directsync => "directsync"
    | .unflushed => "unsafe"

/-- Whether the page cache is bypassed. -/
def direct : CacheMode → Bool
  | none | directsync => true
  | _ => false

/-- Whether flushes of the guest are ignored. -/
def noFlush : CacheMode → Bool
  | unflushed => true
  | _ => false

/-- Whether the guest sees a volatile write cache. -/
def writeCache : CacheMode → Bool
  | writethrough | directsync => false
  | _ => true

def nodeCache (m : CacheMode) : NodeCache := ⟨m.direct, m.noFlush⟩

end CacheMode

inductive Aio where
  | threads
  | native
  | ioUring
  deriving DecidableEq, Inhabited

instance : Named Aio where
  all := [.threads, .native, .ioUring]
  name
    | .threads => "threads"
    | .native => "native"
    | .ioUring => "io_uring"

inductive ImageFormat where
  | raw
  | qcow2
  | qed
  | luks
  | vmdk
  | vdi
  | vhdx
  | vpc
  deriving DecidableEq, Inhabited

instance : Named ImageFormat where
  all := [.raw, .qcow2, .qed, .luks, .vmdk, .vdi, .vhdx, .vpc]
  name
    | .raw => "raw"
    | .qcow2 => "qcow2"
    | .qed => "qed"
    | .luks => "luks"
    | .vmdk => "vmdk"
    | .vdi => "vdi"
    | .vhdx => "vhdx"
    | .vpc => "vpc"

inductive ServerAddress where
  | inet (host : String) (port : Option UInt16)
  | socket (path : String)
  deriving DecidableEq, Inhabited

instance : Codec ServerAddress where
  encode
    | .inet host port => tagging "type" "inet" (field "host" host ++ optional "port" port)
    | .socket path => tagging "type" "unix" (field "path" path)
  read? := tagged? "type" [
    ("inet", fun p => do
      let r ← record? ["host", "port"] p
      return .inet (← r.get "host") (← r.get? "port")),
    ("unix", fun p => do
      let r ← record? ["path"] p
      return .socket (← r.get "path"))]

inductive WebProtocol where
  | http
  | https
  | ftp
  | ftps
  deriving DecidableEq, Inhabited

instance : Named WebProtocol where
  all := [.http, .https, .ftp, .ftps]
  name
    | .http => "http"
    | .https => "https"
    | .ftp => "ftp"
    | .ftps => "ftps"

/-- The bottom node of a chain, which reaches the data. -/
inductive ProtocolNode where
  | file (filename : String) (aio : Option Aio)
  | hostDevice (filename : String) (aio : Option Aio)
  | nbd (server : ServerAddress) (exportName : Option String)
  | iscsi (portal target : String) (lun : UInt32)
  | gluster (server : ServerAddress) (volume path : String)
  | rbd (pool image : String)
  | web (protocol : WebProtocol) (url : String)
  | ssh (server : ServerAddress) (path : String) (user : Option String)
  /-- Injects faults over the node `image`. -/
  | blkdebug (config image : String)
  deriving DecidableEq, Inhabited

namespace ProtocolNode

def driver : ProtocolNode → String
  | file .. => "file"
  | hostDevice .. => "host_device"
  | nbd .. => "nbd"
  | iscsi .. => "iscsi"
  | gluster .. => "gluster"
  | rbd .. => "rbd"
  | web protocol _ => Named.name protocol
  | ssh .. => "ssh"
  | blkdebug .. => "blkdebug"

def aio? : ProtocolNode → Option Aio
  | file _ aio | hostDevice _ aio => aio
  | _ => none

instance : Codec ProtocolNode where
  encode
    | file filename aio =>
      tagging "driver" "file" (field "filename" filename ++ optional "aio" aio)
    | hostDevice filename aio =>
      tagging "driver" "host_device" (field "filename" filename ++ optional "aio" aio)
    | nbd server exportName =>
      tagging "driver" "nbd" (field "server" server ++ optional "export" exportName)
    | iscsi portal target lun =>
      tagging "driver" "iscsi" (field "portal" portal ++ field "target" target ++ field "lun" lun)
    | gluster server volume path =>
      tagging "driver" "gluster"
        (field "server" server ++ field "volume" volume ++ field "path" path)
    | rbd pool image => tagging "driver" "rbd" (field "pool" pool ++ field "image" image)
    | web protocol url =>
      tagging "driver" "curl" (field "protocol" protocol ++ field "url" url)
    | ssh server path user =>
      tagging "driver" "ssh"
        (field "server" server ++ field "path" path ++ optional "user" user)
    | blkdebug config image =>
      tagging "driver" "blkdebug" (field "config" config ++ field "image" image)
  read? := tagged? "driver" [
    ("file", fun p => do
      let r ← record? ["filename", "aio"] p
      return .file (← r.get "filename") (← r.get? "aio")),
    ("host_device", fun p => do
      let r ← record? ["filename", "aio"] p
      return .hostDevice (← r.get "filename") (← r.get? "aio")),
    ("nbd", fun p => do
      let r ← record? ["server", "export"] p
      return .nbd (← r.get "server") (← r.get? "export")),
    ("iscsi", fun p => do
      let r ← record? ["portal", "target", "lun"] p
      return .iscsi (← r.get "portal") (← r.get "target") (← r.get "lun")),
    ("gluster", fun p => do
      let r ← record? ["server", "volume", "path"] p
      return .gluster (← r.get "server") (← r.get "volume") (← r.get "path")),
    ("rbd", fun p => do
      let r ← record? ["pool", "image"] p
      return .rbd (← r.get "pool") (← r.get "image")),
    ("curl", fun p => do
      let r ← record? ["protocol", "url"] p
      return .web (← r.get "protocol") (← r.get "url")),
    ("ssh", fun p => do
      let r ← record? ["server", "path", "user"] p
      return .ssh (← r.get "server") (← r.get "path") (← r.get? "user")),
    ("blkdebug", fun p => do
      let r ← record? ["config", "image"] p
      return .blkdebug (← r.get "config") (← r.get "image"))]

end ProtocolNode

/-- A node that interprets the format of the node `file`. -/
structure FormatNode where
  format : ImageFormat
  file : String
  /-- The secret that unlocks an encrypted image. -/
  keySecret : Option String
  deriving DecidableEq, Inhabited

instance : Codec FormatNode where
  encode n := .obj <|
    field "format" n.format ++ field "file" n.file ++ optional "key_secret" n.keySecret
  read? p := do
    let r ← record? ["format", "file", "key_secret"] p
    return ⟨← r.get "format", ← r.get "file", ← r.get? "key_secret"⟩

inductive FilterNode where
  | copyOnRead (file : String)
  | throttle (file group : String)
  deriving DecidableEq, Inhabited

def FilterNode.file : FilterNode → String
  | copyOnRead file | throttle file _ => file

instance : Codec FilterNode where
  encode
    | .copyOnRead file => tagging "driver" "copy_on_read" (field "file" file)
    | .throttle file group =>
      tagging "driver" "throttle" (field "file" file ++ field "throttle_group" group)
  read? := tagged? "driver" [
    ("copy_on_read", fun p => do
      let r ← record? ["file"] p
      return .copyOnRead (← r.get "file")),
    ("throttle", fun p => do
      let r ← record? ["file", "throttle_group"] p
      return .throttle (← r.get "file") (← r.get "throttle_group"))]

/-- The layers of a chain. -/
inductive StorageNodeKind where
  | protocol (node : ProtocolNode)
  | format (node : FormatNode)
  | filter (node : FilterNode)
  deriving DecidableEq, Inhabited

instance : Codec StorageNodeKind where
  encode
    | .protocol node => tagging "layer" "protocol" (field "protocol" node)
    | .format node => taggingRecord "layer" "format" (encode node)
    | .filter node => tagging "layer" "filter" (field "filter" node)
  read? := tagged? "layer" [
    ("protocol", fun p => do
      let r ← record? ["protocol"] p
      return .protocol (← r.get "protocol")),
    ("format", fun p => (read? p).map .format),
    ("filter", fun p => do
      let r ← record? ["filter"] p
      return .filter (← r.get "filter"))]

structure StorageNode where
  nodeName : String
  readOnly : Bool
  cache : NodeCache
  kind : StorageNodeKind
  deriving DecidableEq, Inhabited

def StorageNode.child? (n : StorageNode) : Option String :=
  match n.kind with
  | .protocol (.blkdebug _ image) => some image
  | .protocol _ => none
  | .format node => some node.file
  | .filter node => some node.file

instance : Codec StorageNode where
  encode n := .obj <|
    field "node_name" n.nodeName ++ field "read_only" n.readOnly ++ field "cache" n.cache ++
      field "kind" n.kind
  read? p := do
    let r ← record? ["node_name", "read_only", "cache", "kind"] p
    return ⟨← r.get "node_name", ← r.get "read_only", ← r.get "cache", ← r.get "kind"⟩

/-- How a drive record is attached. -/
inductive DriveInterface where
  /-- By a device of its own. -/
  | none
  /-- As a flash chip of the machine. -/
  | pflash (number : UInt8)
  deriving DecidableEq, Inhabited

instance : Codec DriveInterface where
  encode
    | .none => tagging "if" "none" []
    | .pflash n => tagging "if" "pflash" (field "unit" n)
  read? := tagged? "if" [
    ("none", noFields? .none),
    ("pflash", fun p => do
      let r ← record? ["unit"] p
      return .pflash (← r.get "unit"))]

/-- A flat drive record, for hypervisors without block nodes. -/
structure LegacyDrive where
  id : String
  /-- The locator of the image as it was given. -/
  file : String
  format : Option ImageFormat
  interface : DriveInterface
  cache : CacheMode
  readOnly : Bool
  aio : Option Aio
  copyOnRead : Bool
  throttlingGroup : Option String
  keySecret : Option String
  deriving DecidableEq, Inhabited

instance : Codec LegacyDrive where
  encode d := .obj <|
    field "id" d.id ++ field "file" d.file ++ optional "format" d.format ++
      field "interface" d.interface ++ field "cache" d.cache ++ field "read_only" d.readOnly ++
      optional "aio" d.aio ++ field "copy_on_read" d.copyOnRead ++
      optional "throttling_group" d.throttlingGroup ++ optional "key_secret" d.keySecret
  read? p := do
    let r ← record? ["id", "file", "format", "interface", "cache", "read_only", "aio",
      "copy_on_read", "throttling_group", "key_secret"] p
    return ⟨← r.get "id", ← r.get "file", ← r.get? "format", ← r.get "interface",
      ← r.get "cache", ← r.get "read_only", ← r.get? "aio", ← r.get "copy_on_read",
      ← r.get? "throttling_group", ← r.get? "key_secret"⟩

/-- The host side of an image. -/
inductive StorageBackend where
  /-- A chain of nodes from the bottom up; the last one is attached to the device. -/
  | layered (nodes : List StorageNode) (cache : CacheMode)
  | legacy (drive : LegacyDrive)
  /-- A removable drive without a medium. -/
  | empty
  deriving DecidableEq, Inhabited

namespace StorageBackend

/-- The name by which a device refers to the backend. -/
def top? : StorageBackend → Option String
  | layered nodes _ => nodes.getLast?.map StorageNode.nodeName
  | legacy drive => some drive.id
  | empty => none

def cache? : StorageBackend → Option CacheMode
  | layered _ cache => some cache
  | legacy drive => some drive.cache
  | empty => none

/-- A chain is read-only when one of its nodes is. -/
def readOnly : StorageBackend → Bool
  | layered nodes _ => nodes.any StorageNode.readOnly
  | legacy drive => drive.readOnly
  | empty => true

def nodeAio? (n : StorageNode) : Option Aio :=
  match n.kind with
  | .protocol node => node.aio?
  | _ => none

/-- The engine of the first node that has one. -/
def aio? : StorageBackend → Option Aio
  | layered nodes _ => nodes.findSome? nodeAio?
  | legacy drive => drive.aio
  | empty => none

/-- Whether the backend is a chain of nodes. -/
def isLayered : StorageBackend → Bool
  | layered .. => true
  | _ => false

instance : Codec StorageBackend where
  encode
    | layered nodes cache =>
      tagging "mode" "layered" (field "nodes" nodes ++ field "cache" cache)
    | legacy drive => tagging "mode" "legacy" (field "drive" drive)
    | empty => tagging "mode" "empty" []
  read? := tagged? "mode" [
    ("layered", fun p => do
      let r ← record? ["nodes", "cache"] p
      return .layered (← r.get "nodes") (← r.get "cache")),
    ("legacy", fun p => do
      let r ← record? ["drive"] p
      return .legacy (← r.get "drive")),
    ("empty", noFields? .empty)]

end StorageBackend

end GuestSpec

import GuestSpec.Document.Storage
import GuestSpec.Error

/-!
# Image locators

A locator says where the data of an image is: a path, a URL, or one of these behind a wrapper that
injects faults.
-/

namespace GuestSpec.Storage

inductive Locator where
  | plain (node : ProtocolNode)
  /-- Faults are injected as a configuration says. -/
  | blkdebug (config : String) (inner : ProtocolNode)
  deriving DecidableEq, Inhabited

def Locator.data : Locator → ProtocolNode
  | plain node | blkdebug _ node => node

/-- Why a locator is refused, without the image and the locator. -/
inductive Refusal where
  | unknown
  | malformed (scheme reason : String)
  deriving DecidableEq

def Refusal.toError (image locator : String) : Refusal → LocatorError
  | unknown => .unknownScheme image locator
  | malformed scheme reason => .malformed image scheme locator reason

def orMalformed {α : Type} (scheme reason : String) : Option α → Except Refusal α
  | some a => .ok a
  | none => .error (.malformed scheme reason)

/-- The text before a separator and, if there is one, the text behind it. -/
def splitOff (sep : Char) (s : String) : String × Option String :=
  match Text.splitFirst? sep s with
  | some (a, b) => (a, some b)
  | none => (s, none)

def nonempty? (s : String) : Option String := if s = "" then none else some s

/-- The host and the text of the port in `host[:port]` or `[address][:port]`. -/
def hostAndPort (scheme authority : String) : Except Refusal (String × Option String) :=
  match authority.toList with
  | '[' :: rest => do
    let (host, tail) ←
      orMalformed scheme "unterminated IPv6 address" (Text.splitFirst? ']' (String.ofList rest))
    return (host, (nonempty? tail).map fun t => (Text.afterLeading? ":" t).getD t)
  | _ => .ok (splitOff ':' authority)

def server (scheme authority : String) : Except Refusal ServerAddress := do
  let (host, port) ← hostAndPort scheme authority
  if host = "" then throw (.malformed scheme "missing host")
  match port with
  | none => return .inet host none
  | some raw =>
    let port ← orMalformed scheme "invalid port" (Numeral.uint16? raw)
    return .inet host (some port)

/-- A path, or a device of the host. A scheme that is not known is no path. -/
def ofPath (path : String) : Except Refusal ProtocolNode :=
  match Text.splitFirst? ':' path with
  | some (scheme, _) =>
    if Text.occurs "/" scheme then .ok (reach path) else .error .unknown
  | none => .ok (reach path)
where
  /-- The node for a local path. -/
  reach (path : String) : ProtocolNode :=
    if (Text.afterLeading? "/dev/" path).isSome then .hostDevice path none else .file path none

/-- The two nonempty parts of a text around its first slash. -/
def twoParts? (s : String) : Option (String × String) :=
  match Text.splitFirst? '/' s with
  | some (a, b) => if a = "" ∨ b = "" then none else some (a, b)
  | none => none

/-- A block device of a server, behind its address. -/
def ofIscsi (authority path : String) : Except Refusal ProtocolNode := do
  let _ ← server "iscsi" authority
  match Text.splitFirst? '/' path with
  | none => throw (.malformed "iscsi" "expected /<target>/<lun>")
  | some (target, lun) =>
    if target = "" then throw (.malformed "iscsi" "expected /<target>/<lun>")
    let lun ← orMalformed "iscsi" "invalid LUN" (Numeral.uint32? lun)
    return .iscsi authority target lun

def socketPath? (query : String) : Option String := do
  let path ← (Text.splitWhere (· == '&') query).findSome? (Text.afterLeading? "socket=")
  nonempty? path

/-- A URL, cut into its scheme and the rest. -/
def ofUrl (url scheme rest : String) : Except Refusal ProtocolNode :=
  let (authority, path) := splitOff '/' rest
  let path := path.getD ""
  match scheme with
  | "nbd" => return .nbd (← server "nbd" authority) (nonempty? path)
  | "nbd+unix" => do
    let (exportName, query) := splitOff '?' path
    let socket ←
      orMalformed "nbd+unix" "missing socket= parameter" (socketPath? (query.getD ""))
    return .nbd (.socket socket) (nonempty? exportName)
  | "iscsi" => ofIscsi authority path
  | "gluster" => do
    let server ← server "gluster" authority
    let (volume, image) ← orMalformed "gluster" "expected /<volume>/<path>" (twoParts? path)
    return .gluster server volume image
  | "ssh" => do
    let (user, host) := match Text.splitFirst? '@' authority with
      | some (user, host) => (some user, host)
      | none => (none, authority)
    if path = "" then throw (.malformed "ssh" "missing path")
    return .ssh (← server "ssh" host) ("/" ++ path) user
  | _ =>
    match (Named.ofName? scheme : Option WebProtocol) with
    | none => .error .unknown
    | some protocol =>
      if authority = "" then .error (.malformed "curl" "missing host")
      else .ok (.web protocol url)

/-- The node that a locator without a wrapper names. -/
def ofLocator (s : String) : Except Refusal ProtocolNode :=
  match Text.afterLeading? "rbd:" s with
  | some rest => do
    let (pool, image) ← orMalformed "rbd" "expected rbd:<pool>/<image>" (twoParts? rest)
    return .rbd pool image
  | none =>
    match Text.splitOnce? "://" s with
    | some (scheme, rest) => ofUrl s scheme rest
    | none => ofPath s

def understand (s : String) : Except Refusal Locator :=
  match Text.afterLeading? "blkdebug:" s with
  | none => return .plain (← ofLocator s)
  | some rest =>
    match Text.splitFirst? ':' rest with
    | some (config, inner) =>
      if inner = "" then .error (.malformed "blkdebug" "expected blkdebug:<config>:<image>")
      else return .blkdebug config (← ofLocator inner)
    | none => .error (.malformed "blkdebug" "expected blkdebug:<config>:<image>")

/-- Understands the locator of an image. -/
def classify (image locator : String) : Except LocatorError Locator :=
  let s := Text.trim locator
  if s = "" then .error (.empty image)
  else (understand s).mapError (Refusal.toError image s)

end GuestSpec.Storage

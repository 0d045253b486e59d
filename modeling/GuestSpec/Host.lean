import GuestSpec.Error
import GuestSpec.Search

/-!
# The host

What a host offers to a guest: memory, TCP ports and vsock context ids. A compilation takes any
kind of host that can be asked for them. Leases record what one compilation has handed out, so that
nothing is handed out twice.
-/

namespace GuestSpec

/-- A set of numbers, as a list of ranges with both ends included. -/
abbrev Ranges := List (Nat × Nat)

def Ranges.has (r : Ranges) (n : Nat) : Bool := r.any fun (low, high) => low ≤ n && n ≤ high

/-- What a compilation asks its host. Asking reserves nothing, and a host may have changed when it
is asked again. -/
class HostResources (H : Type) where
  /-- The memory that guests may use, in mebibytes. -/
  memoryMib : StateM H UInt64
  /-- The first port from `low` to `high` that is free on the host and not excluded. -/
  findPort? (low high : UInt16) (excluded : UInt16 → Bool) : StateM H (Option UInt16)
  /-- The first context id from `low` on that is free on the host and not excluded. -/
  findCid? (low : UInt32) (excluded : UInt32 → Bool) : StateM H (Option UInt32)

/-! ## Fixed hosts -/

/-- A host whose resources are given. -/
structure Host where
  memoryMib : UInt64
  busyPorts : Ranges
  busyCids : Ranges
  deriving DecidableEq

namespace Host

/-- A host on which no port and no context id is busy. -/
def idle (memoryMib : UInt64) : Host := ⟨memoryMib, [], []⟩

instance : Inhabited Host := ⟨idle 16384⟩

def findPort? (h : Host) (low high : UInt16) (excluded : UInt16 → Bool) : Option UInt16 :=
  firstFrom? (fun i =>
    let port := UInt16.ofNat i
    if excluded port || h.busyPorts.has i then none else some port)
    low.toNat (high.toNat + 1 - low.toNat)

/-- The largest context id that a guest may have. The one above it stands for any. -/
def lastCid : UInt32 := 0xFFFFFFFE

def findCid? (h : Host) (low : UInt32) (excluded : UInt32 → Bool) : Option UInt32 :=
  firstFrom? (fun i =>
    let cid := UInt32.ofNat i
    if excluded cid || h.busyCids.has i then none else some cid)
    low.toNat (lastCid.toNat + 1 - low.toNat)

instance : HostResources Host where
  memoryMib h := (h.memoryMib, h)
  findPort? low high excluded h := (h.findPort? low high excluded, h)
  findCid? low excluded h := (h.findCid? low excluded, h)

@[simp] theorem resources_findPort? (h : Host) (low high : UInt16) (excluded : UInt16 → Bool) :
    HostResources.findPort? low high excluded h = (h.findPort? low high excluded, h) := rfl

@[simp] theorem resources_findCid? (h : Host) (low : UInt32) (excluded : UInt32 → Bool) :
    HostResources.findCid? low excluded h = (h.findCid? low excluded, h) := rfl

end Host

/-! ## The host of the program -/

/-- The host that the program runs on. Whether a port is free is tried out, and each try may come
out differently. Which context ids are busy cannot be found out. -/
structure LocalHost where
  /-- The system's report on its memory, if it can be read. -/
  report : Option String
  /-- Whether a program could listen on a port at each try. -/
  listens : Nat → UInt16 → Bool
  /-- How many tries there were. -/
  tries : Nat

namespace LocalHost

/-- The available memory in a report of the system, in mebibytes. -/
def availableMib? (report : String) : Option UInt64 := do
  let line ← (Text.lines report).find? fun l => (Text.afterLeading? "MemAvailable:" l).isSome
  let kib ← Numeral.uint64? (← (Text.words line)[1]?)
  return kib / 1024

/-- The port in a line of the system's table of TCP sockets, if a program listens on it. -/
def listeningPort? (line : String) : Option Nat :=
  match Text.words line with
  | _ :: address :: _ :: state :: _ => do
    let (_, port) ← Text.splitFirst? ':' address
    if state = "0A" then Numeral.unsigned? 16 0xFFFF port.toList else none
  | _ => none

def listeningPorts (table : String) : Ranges :=
  (Text.lines table).filterMap fun line => (listeningPort? line).map fun port => (port, port)

def listen (port : UInt16) : StateM LocalHost Bool := fun h =>
  (h.listens h.tries port, { h with tries := h.tries + 1 })

/-- The first of `count` ports from `start` on that is not excluded and that a program can listen
on. Excluded ports are not tried. -/
def search (excluded : UInt16 → Bool) : (start count : Nat) → StateM LocalHost (Option UInt16)
  | _, 0 => return none
  | start, count + 1 => do
    let port := UInt16.ofNat start
    if excluded port then search excluded (start + 1) count
    else if ← listen port then return some port
    else search excluded (start + 1) count

instance : HostResources LocalHost where
  memoryMib h := ((h.report.bind availableMib?).getD 0, h)
  findPort? low high excluded := search excluded low.toNat (high.toNat + 1 - low.toNat)
  findCid? low excluded h := ((Host.idle 0).findCid? low excluded, h)

end LocalHost

/-! ## Leases -/

/-- What was handed out, and to whom. -/
structure HostLeases (H : Type := Host) where
  host : H
  ports : List (UInt16 × String)
  cids : List (UInt32 × String)
  deriving DecidableEq, Inhabited

namespace HostLeases

def firstPort : UInt16 := 5000

def lastPort : UInt16 := 5899

def firstCid : UInt32 := 3

variable {H : Type}

def start (host : H) : HostLeases H := ⟨host, [], []⟩

variable [HostResources H]

def memoryMib (l : HostLeases H) : UInt64 × HostLeases H :=
  let (mib, host) := HostResources.memoryMib l.host
  (mib, { l with host })

/-- Hands out the port that is asked for, or the first one that is free. -/
def tcpPort (l : HostLeases H) (owner : String) (explicit : Option UInt16) :
    Except CompileError (UInt16 × HostLeases H) :=
  match explicit with
  | some port =>
    match l.ports.lookup port with
    | some holder => .error (.collision (.portInUse owner port holder))
    | none => .ok (port, { l with ports := (port, owner) :: l.ports })
  | none =>
    let excluded port := l.ports.any (·.1 == port)
    match HostResources.findPort? firstPort lastPort excluded l.host with
    | (some port, host) => .ok (port, { l with host, ports := (port, owner) :: l.ports })
    | (none, _) =>
      .error (.limit (.hostExhausted "TCP port" firstPort.toUInt32 lastPort.toUInt32))

/-- Hands out the context id that is asked for, or the first one that is free. -/
def vsockCid (l : HostLeases H) (owner : String) (explicit : Option UInt32) :
    Except CompileError (UInt32 × HostLeases H) :=
  match explicit with
  | some cid =>
    match l.cids.lookup cid with
    | some holder => .error (.collision (.cidInUse owner cid holder))
    | none => .ok (cid, { l with cids := (cid, owner) :: l.cids })
  | none =>
    let excluded cid := l.cids.any (·.1 == cid)
    match HostResources.findCid? firstCid excluded l.host with
    | (some cid, host) => .ok (cid, { l with host, cids := (cid, owner) :: l.cids })
    | (none, _) => .error (.limit (.hostExhausted "vsock CID" firstCid Host.lastCid))

end HostLeases

end GuestSpec

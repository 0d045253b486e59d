import GuestSpec.Capability.Basic
import GuestSpec.Document.Machine
import GuestSpec.Parameters.Basic

/-!
# Processor topologies

Arranges processors in sockets, cores, threads and further dimensions, so that all dimensions
together make the number of processors asked for. Dimensions that are not given are one, except
for a single one that takes what is left.
-/

namespace GuestSpec

inductive TopologyError where
  | indivisible (dimension : String) (total : UInt32) (product : Nat)
  | productMismatch (product : Nat) (total : UInt32)
  | smpExceedsMax (smp maxcpus : UInt32)
  | noBootCpus (total : UInt32) (hotplug : Nat)
  /-- A product does not fit 64 bits. -/
  | overflow
  deriving DecidableEq

def TopologyError.message : TopologyError → String
  | .indivisible dimension total product =>
    "cannot solve " ++ dimension ++ ": " ++ toString total.toNat ++
      " CPUs are not divisible by " ++ toString product
  | .productMismatch product total =>
    "topology product " ++ toString product ++ " does not match " ++ toString total.toNat ++ " CPUs"
  | .smpExceedsMax smp maxcpus =>
    "smp " ++ toString smp.toNat ++ " exceeds maxcpus " ++ toString maxcpus.toNat
  | .noBootCpus total hotplug =>
    toString hotplug ++ " hot-pluggable CPUs leave no boot CPUs out of " ++ toString total.toNat
  | .overflow => "arithmetic overflow"

namespace Topology

inductive Dimension where
  | sockets
  | cores
  | threads
  | dies
  | clusters
  | books
  | drawers
  deriving DecidableEq, Inhabited

instance : Named Dimension where
  all := [.sockets, .cores, .threads, .dies, .clusters, .books, .drawers]
  name
    | .sockets => "sockets"
    | .cores => "cores"
    | .threads => "threads"
    | .dies => "dies"
    | .clusters => "clusters"
    | .books => "books"
    | .drawers => "drawers"

structure Request where
  smp : Option UInt32
  maxcpus : Option UInt32
  /-- The dimensions that are given. -/
  sizes : Dimension → Option UInt32
  /-- The processors that are plugged in after the start. -/
  hotplugDevices : List String

/-- A number that counts only when it is not zero. -/
def positive? (p : Parameters) (key : String) : Except Parameters.Error (Option UInt32) := do
  return (← p.uint32? key).filter (· != 0)

def Request.ofParameters (p : Parameters) : Except Parameters.Error Request := do
  let smp ← positive? p "smp"
  let maxcpus ← positive? p "vcpu_maxcpus"
  let sockets ← positive? p "vcpu_sockets"
  let dies ← positive? p "vcpu_dies"
  let clusters ← positive? p "vcpu_clusters"
  let cores ← positive? p "vcpu_cores"
  let threads ← positive? p "vcpu_threads"
  let books ← positive? p "vcpu_books"
  let drawers ← positive? p "vcpu_drawers"
  let sizes := fun
    | .sockets => sockets
    | .cores => cores
    | .threads => threads
    | .dies => dies
    | .clusters => clusters
    | .books => books
    | .drawers => drawers
  return ⟨smp, maxcpus, sizes, p.objects "vcpu_devices"⟩

/-- What the hypervisor and the machine allow. -/
structure Rules where
  dies : Bool
  clusters : Bool
  books : Bool
  drawers : Bool
  preferCores : Bool
  /-- Processors are plugged in a core at a time. -/
  hotplugWholeCores : Bool
  deriving DecidableEq, Inhabited

def Rules.ofOracle {m : Type → Type} [Monad m] (o : Oracle m) (hotplugWholeCores : Bool) :
    m Rules := do
  let dies ← o.probe .smpDies
  let clusters ← o.probe .smpClusters
  let books ← o.probe .smpBooks
  let drawers ← o.probe .smpDrawers
  let preferCores ← o.probe .smpPreferCores
  return ⟨dies, clusters, books, drawers, preferCores, hotplugWholeCores⟩

def Rules.allows (r : Rules) : Dimension → Bool
  | .dies => r.dies
  | .clusters => r.clusters
  | .books => r.books
  | .drawers => r.drawers
  | _ => true

/-- The sizes that are given. A dimension that is not allowed is one. -/
def legalSizes (r : Rules) (sizes : Dimension → Option UInt32) (d : Dimension) : Option UInt32 :=
  if r.allows d then sizes d else some 1

/-- The product of some sizes, in 64 bits; a size that is not given counts one. -/
def product (sizes : Dimension → Option UInt32) (among : List Dimension) :
    Except TopologyError Nat :=
  match wordProduct? (among.map fun d => (sizes d).getD 1) with
  | some n => .ok n
  | none => .error .overflow

def unset (sizes : Dimension → Option UInt32) : List Dimension :=
  (Named.all : List Dimension).filter fun d => (sizes d).isNone

def total (req : Request) (sizes : Dimension → Option UInt32) : Except TopologyError UInt32 :=
  match req.maxcpus, req.smp with
  | some n, _ => .ok n
  | none, some n => .ok n
  | none, none =>
    if (unset sizes).isEmpty then do
      let n ← product sizes Named.all
      if n < UInt32.size then return UInt32.ofNat n else throw (.productMismatch n 0)
    else .ok 1

/-- The order in which a dimension is chosen to take what is left. -/
def preference (preferCores : Bool) : List Dimension :=
  if preferCores then [.cores, .sockets, .threads] else [.sockets, .cores, .threads]

/-- The dimension that takes what is left, and those it is left by. When the greatest number of
processors is given and one dimension is not, it is that dimension; otherwise it is the first of
the three main dimensions that is not given. -/
def remainder? (req : Request) (r : Rules) (sizes : Dimension → Option UInt32) :
    Option (Dimension × List Dimension) :=
  match req.maxcpus, unset sizes with
  | some _, [d] => some (d, Named.all)
  | maxcpus, missing =>
    if 1 < missing.length ∧ maxcpus = some 1 ∧
        (Named.all : List Dimension).all fun d => (sizes d).all (· ≤ 1) then none
    else
      (preference r.preferCores).find? (fun d => (sizes d).isNone) |>.map fun d =>
        (d, [.dies, .clusters, .books, .drawers] ++ [.sockets, .cores, .threads].filter (· ≠ d))

/-- What is left for a dimension: a number of at least one. -/
def divide (d : Dimension) (total : UInt32) (sizes : Dimension → Option UInt32)
    (among : List Dimension) : Except TopologyError UInt32 := do
  let n ← product sizes among
  if n = 0 ∨ total.toNat % n ≠ 0 ∨ total.toNat / n = 0 then
    throw (.indivisible (Named.name d) total n)
  return UInt32.ofNat (total.toNat / n)

def arrange (req : Request) (r : Rules) (sizes : Dimension → Option UInt32) (total : UInt32) :
    Except TopologyError (Dimension → UInt32) :=
  match remainder? req r sizes with
  | none => .ok fun d => (sizes d).getD 1
  | some (d, among) => do
    let v ← divide d total sizes among
    return fun e => if e = d then v else (sizes e).getD 1

def document (r : Rules) (total smp : UInt32) (sizes : Dimension → UInt32) : CpuTopology where
  smp := smp
  maxcpus := total
  sockets := sizes .sockets
  cores := sizes .cores
  threads := sizes .threads
  dies := if r.dies then some (sizes .dies) else none
  clusters := if r.clusters then some (sizes .clusters) else none
  books := if r.books then some (sizes .books) else none
  drawers := if r.drawers then some (sizes .drawers) else none

/-- The processors that are present at the start: those asked for when both numbers are given, and
otherwise all but those that are plugged in later. -/
def bootCpus (req : Request) (r : Rules) (total threads : UInt32) : Except TopologyError UInt32 :=
  match req.smp, req.maxcpus with
  | some smp, some maxcpus =>
    if maxcpus < smp then .error (.smpExceedsMax smp maxcpus) else .ok smp
  | _, _ =>
    let hotplug := req.hotplugDevices.length * (if r.hotplugWholeCores then threads.toNat else 1)
    if UInt64.size ≤ hotplug then .error .overflow
    else if hotplug < total.toNat then .ok (UInt32.ofNat (total.toNat - hotplug))
    else .error (.noBootCpus total hotplug)

/-- Arranges processors. -/
def solve (req : Request) (r : Rules) : Except TopologyError CpuTopology := do
  let sizes := legalSizes r req.sizes
  let total ← total req sizes
  let sizes ← arrange req r sizes total
  let t := document r total 0 sizes
  match t.product? with
  | none => throw .overflow
  | some n =>
    if n ≠ total.toNat then throw (.productMismatch n total)
    let smp ← bootCpus req r total t.threads
    return { t with smp }

end Topology

end GuestSpec

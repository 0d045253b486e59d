import GuestSpec.Capability.Set

/-!
# Probing a hypervisor

A hypervisor tells what it can do when it is run with certain options. Four queries answer all
questions. Each is run at most once, when a question first needs it; a query that fails leaves
everything that depends on it unsupported.
-/

namespace GuestSpec

inductive Query where
  | version
  | help
  | deviceHelp
  | objectHelp
  deriving DecidableEq, Inhabited

def Query.options : Query → List String
  | version => ["--version"]
  | help => ["--help"]
  | deviceHelp => ["-machine", "none", "-device", "help"]
  | objectHelp => ["-machine", "none", "-object", "help"]

namespace Probe

/-- The version in a banner such as `emulator version 8.2.2 (vendor)`. -/
def bannerVersion? (text : String) : Option Version := do
  let (_, rest) ← Text.splitOnce? "version " text
  let digits := rest.toList.takeWhile fun c => c.isDigit || c == '.'
  let raw := (digits.reverse.dropWhile (· == '.')).reverse
  (Version.ofText (String.ofList raw)).toOption

/-- The names in lines such as `name "virtio-blk-pci", bus PCI`. -/
def deviceNames (text : String) : List String :=
  (Text.lines text).filterMap fun line => do
    let rest ← Text.afterLeading? "name \"" (Text.trim line)
    let (name, _) ← Text.splitFirst? '"' rest
    return name

/-- The names in an indented list: lines of one word that do not end in a colon. -/
def objectNames (text : String) : List String :=
  ((Text.lines text).map Text.trim).filter fun line =>
    line != "" && line.toList.getLast? != some ':' && !line.toList.any Text.isBlank

/-- Whether a word stands in a text, where blanks, commas and opening brackets end words. -/
def mentions (text word : String) : Bool :=
  (Text.splitWhere (fun c => Text.isBlank c || c == ',' || c == '[') text).contains word

/-- What runs the queries. A query may change its state and may fail. -/
structure Backend (σ : Type) where
  query : Query → StateM σ (Option String)

/-- A probe: the state of its backend, and what it has learned so far. -/
structure State (σ : Type) where
  backend : σ
  outputs : List (Query × Option String)
  answers : List (Capability × Bool)

def State.start {σ : Type} (backend : σ) : State σ := ⟨backend, [], []⟩

variable {σ : Type}

/-- The output of a query, run only if it was not run before. -/
def output (b : Backend σ) (q : Query) : StateM (State σ) (Option String) := fun s =>
  match s.outputs.lookup q with
  | some known => (known, s)
  | none =>
    let (result, backend) := b.query q s.backend
    (result, { s with backend, outputs := (q, result) :: s.outputs })

def version (b : Backend σ) : StateM (State σ) (Option Version) := do
  return (← output b .version).bind bannerVersion?

def inInterval (b : Backend σ) (i : Version.Interval) : StateM (State σ) Bool := do
  return i.containsKnown (← version b)

def hasDevice (b : Backend σ) (name : String) : StateM (State σ) Bool := do
  return (← output b .deviceHelp).any fun text => (deviceNames text).contains name

def hasObject (b : Backend σ) (name : String) : StateM (State σ) Bool := do
  return (← output b .objectHelp).any fun text => (objectNames text).contains name

def evaluate (b : Backend σ) (c : Capability) : StateM (State σ) Bool :=
  match c.gate with
  | .help word => do return (← output b .help).any fun text => mentions text word
  | .version i => inInterval b i
  | .device name => hasDevice b name

/-- Whether the hypervisor has a capability, decided once. -/
def probe (b : Backend σ) (c : Capability) : StateM (State σ) Bool := do
  match (← get).answers.lookup c with
  | some known => return known
  | none =>
    let answer ← evaluate b c
    modify fun s => { s with answers := (c, answer) :: s.answers }
    return answer

def oracle (b : Backend σ) : Oracle (StateM (State σ)) where
  probe := probe b
  inInterval := inInterval b
  hasDevice := hasDevice b
  hasObject := hasObject b
  version := version b

end Probe

end GuestSpec

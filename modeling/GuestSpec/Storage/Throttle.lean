import GuestSpec.Document.Backend
import GuestSpec.Json.Printer
import GuestSpec.Json.Reader
import GuestSpec.Json.Sorted
import GuestSpec.Machine.Target

/-!
# Throttle groups

Images of one group share limits on their traffic. The limits of a group are an object in its
parameters: six of them are numbers, and all others are passed on as text.
-/

namespace GuestSpec.Storage

def scopedKey (key object : String) : String := key ++ "_" ++ object

/-- The number of a limit, written as a number or as a text. -/
def limitNumber? : Json → Option UInt64
  | .int n => if 0 ≤ n ∧ n.toNat < UInt64.size then some (UInt64.ofNat n.toNat) else none
  | .str s => Numeral.uint64? s
  | _ => none

/-- The text of a limit that is passed on. -/
def limitText : Json → String
  | .str s => s
  | j => Json.compact j.sorted

def setLimit? (l : ThrottleLimits) : String × Json → Option ThrottleLimits
  | ("iops-total", j) => do return { l with iopsTotal := some (← limitNumber? j) }
  | ("iops-read", j) => do return { l with iopsRead := some (← limitNumber? j) }
  | ("iops-write", j) => do return { l with iopsWrite := some (← limitNumber? j) }
  | ("bps-total", j) => do return { l with bpsTotal := some (← limitNumber? j) }
  | ("bps-read", j) => do return { l with bpsRead := some (← limitNumber? j) }
  | ("bps-write", j) => do return { l with bpsWrite := some (← limitNumber? j) }
  | (name, j) => some { l with extra := l.extra.insert name (limitText j) }

/-- Reads limits. Of two limits with one name the later counts. -/
def limits? (raw : String) : Option ThrottleLimits :=
  match Json.parse? raw with
  | some (.obj fields) => (Json.sortFields fields).foldlM setLimit? .empty
  | _ => none

/-- The limits of a group, from the parameters as the group sees them. -/
def throttleLimits (group : String) (p : Parameters) : Except Parameters.Error ThrottleLimits :=
  let raw := p.getD "throttle_group_parameters" "\x7b\x7d"
  match limits? raw with
  | some l => .ok l
  | none =>
    .error (.invalid (scopedKey "throttle_group_parameters" group) raw "a JSON object of limits")

def throttleGroup {m : Type → Type} [Monad m] (p : Parameters) (t : Target m) (group : String) :
    Build m ObjectSpec := do
  t.requireObject "throttle-group"
  let limits ← throttleLimits group (p.scopedTo group)
  return ⟨group, .throttleGroup limits⟩

def throttleGroups {m : Type → Type} [Monad m] (p : Parameters) (t : Target m) :
    Build m (List ObjectSpec) :=
  (p.objects "throttle_groups").mapM (throttleGroup p t)

end GuestSpec.Storage

import GuestSpec.Text.Basic
import GuestSpec.Text.Numeral

/-!
# Options

The options of the command line. A value stands behind its option, as `--option value` or
`--option=value`; after `--` nothing is an option. No option is given twice.
-/

namespace GuestSpec

inductive UsageError where
  | unknown (argument : String)
  | repeated (option : String)
  | conflict (option other : String)
  | valueMissing (option : String)
  | valueInvalid (option value : String)
  | valueUnexpected (option : String)
  | fileMissing
  deriving DecidableEq

def UsageError.message : UsageError → String
  | unknown argument => "unexpected argument '" ++ argument ++ "'"
  | repeated option => "the argument '--" ++ option ++ "' cannot be used multiple times"
  | conflict option other =>
    "the argument '--" ++ option ++ "' cannot be used with '--" ++ other ++ "'"
  | valueMissing option => "a value is required for '--" ++ option ++ "'"
  | valueInvalid option value => "invalid value '" ++ value ++ "' for '--" ++ option ++ "'"
  | valueUnexpected option => "unexpected value for '--" ++ option ++ "'"
  | fileMissing => "a parameter file is required"

structure Options where
  /-- The file of parameters. -/
  params : Option String
  /-- A file that tells what the hypervisor can do. -/
  caps : Option String
  /-- A hypervisor that is asked what it can do. -/
  hypervisor : Option String
  /-- The name of the guest. -/
  vmName : Option String
  /-- The memory of the host in mebibytes. -/
  hostMemory : Option UInt64
  /-- The seed of identifiers. -/
  seed : Option UInt64
  /-- Identifiers are counted. -/
  sequentialIds : Bool
  debug : Bool
  deriving DecidableEq, Inhabited

namespace Options

def none : Options := ⟨.none, .none, .none, .none, .none, .none, false, false⟩

/-- The options that have a value. -/
inductive Valued where
  | caps
  | hypervisor
  | vmName
  | hostMemory
  | seed
  deriving DecidableEq

def Valued.name : Valued → String
  | caps => "caps"
  | hypervisor => "qemu"
  | vmName => "vm-name"
  | hostMemory => "host-memory"
  | seed => "seed"

def Valued.ofName? (name : String) : Option Valued :=
  [caps, hypervisor, vmName, hostMemory, seed].find? (·.name == name)

/-- A value that an option is set to, unless it was set before. -/
def once {α : Type} (name : String) (old : Option α) (new : α) :
    Except UsageError (Option α) :=
  if old.isSome then .error (.repeated name) else .ok (some new)

/-- The name of a file, which is not empty. -/
def file (name value : String) : Except UsageError String :=
  if value = "" then .error (.valueInvalid name value) else .ok value

def number (name value : String) : Except UsageError UInt64 :=
  match Numeral.uint64? value with
  | some n => .ok n
  | .none => .error (.valueInvalid name value)

def set (o : Options) (v : Valued) (value : String) : Except UsageError Options := do
  match v with
  | .caps => return { o with caps := ← once v.name o.caps (← file v.name value) }
  | .hypervisor => return { o with hypervisor := ← once v.name o.hypervisor value }
  | .vmName => return { o with vmName := ← once v.name o.vmName value }
  | .hostMemory =>
    return { o with hostMemory := ← once v.name o.hostMemory (← number v.name value) }
  | .seed => return { o with seed := ← once v.name o.seed (← number v.name value) }

def setFlag (o : Options) (name : String) : Except UsageError Options :=
  match name with
  | "sequential-ids" =>
    if o.sequentialIds then .error (.repeated name) else .ok { o with sequentialIds := true }
  | "debug" => if o.debug then .error (.repeated name) else .ok { o with debug := true }
  | _ => .error (.unknown ("--" ++ name))

/-- Takes an argument that is no option: the file of parameters. -/
def setFile (o : Options) (value : String) : Except UsageError Options :=
  if o.params.isSome then .error (.unknown value)
  else do return { o with params := some (← file "params" value) }

/-- Rejects options that contradict each other, and a missing file of parameters. -/
def check (o : Options) : Except UsageError Options :=
  if o.caps.isSome && o.hypervisor.isSome then .error (.conflict "caps" "qemu")
  else if o.seed.isSome && o.sequentialIds then .error (.conflict "seed" "sequential-ids")
  else if o.params.isNone then .error .fileMissing
  else .ok o

end Options

inductive Request where
  | help
  | version
  | compile (o : Options)
  deriving DecidableEq, Inhabited

namespace Request

inductive Argument where
  /-- Nothing after it is an option. -/
  | separator
  /-- An option by its name, with a value behind an equals sign if there is one. -/
  | long (name : String) (value : Option String)
  /-- Options of one letter. -/
  | short (letters : List Char)
  | plain
  deriving DecidableEq

/-- The form of an argument. A single hyphen is no option. -/
def Argument.ofText (s : String) : Argument :=
  match s.toList with
  | ['-', '-'] => .separator
  | '-' :: '-' :: name =>
    match Text.Chars.splitFirst? '=' name with
    | some (name, value) => .long (String.ofList name) (some (String.ofList value))
    | none => .long (String.ofList name) none
  | '-' :: c :: letters => .short (c :: letters)
  | _ => .plain

/-- Takes options of one letter. -/
def setLetters (o : Options) : List Char → Except UsageError (Options × Option Request)
  | [] => .ok (o, none)
  | 'd' :: letters => do setLetters (← o.setFlag "debug") letters
  | 'h' :: _ => .ok (o, some .help)
  | 'V' :: _ => .ok (o, some .version)
  | c :: _ => .error (.unknown ("-" ++ c.toString))

/-- Takes arguments one after the other. A question for help is answered at once. -/
def take (o : Options) : List String → Except UsageError Request
  | [] => return .compile (← o.check)
  | a :: rest =>
    match Argument.ofText a with
    | .separator => do return .compile (← (← rest.foldlM Options.setFile o).check)
    | .plain => do take (← o.setFile a) rest
    | .short letters => do
      match ← setLetters o letters with
      | (_, some request) => return request
      | (o, none) => take o rest
    | .long name value =>
      match Options.Valued.ofName? name, value with
      | some option, some value => do take (← o.set option value) rest
      | some option, none =>
        match rest with
        | v :: rest =>
          if Argument.ofText v = .plain then do take (← o.set option v) rest
          else .error (.valueMissing name)
        | [] => .error (.valueMissing name)
      | none, some _ => do
        let _ ← o.setFlag name
        throw (.valueUnexpected name)
      | none, none =>
        if name = "help" then .ok .help
        else if name = "version" then .ok .version
        else do take (← o.setFlag name) rest

def ofArguments (args : List String) : Except UsageError Request := take .none args

example : (ofArguments ["p.cfg", "--seed=7"]).toOption =
    some (.compile { Options.none with params := some "p.cfg", seed := some 7 }) := by
  decide +kernel
example : (ofArguments ["p.cfg", "--seed"]).toOption = none := by decide +kernel
example : (ofArguments ["-dh", "--nope"]).toOption = some .help := by decide +kernel

end Request

end GuestSpec

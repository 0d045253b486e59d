import GuestSpec.Capability.Probe
import GuestSpec.Text.Utf8

/-!
# Answering scripts

A script that stands in for a hypervisor: it answers each command line with fixed text. Scripts
are written in a part of the shell's language: the commands `echo`, `printf`, `exit`, `true` and
`false`, the redirection of a command's output to the error output, and a choice between patterns
for the command line.
-/

namespace GuestSpec.Script

/-! ## Words -/

/-- A part of a word. -/
inductive Piece where
  /-- A character. Only one that is not quoted can be a wildcard. -/
  | char (c : Char) (quoted : Bool)
  /-- The arguments of the script. -/
  | arguments
  deriving DecidableEq

abbrev Word := List Piece

def Word.text (args : String) (w : Word) : String :=
  String.ofList (w.flatMap fun
    | .char c _ => [c]
    | .arguments => args.toList)

/-- A part of a pattern. -/
inductive Wildcard where
  | one (c : Char)
  | anyOne
  | anyMany
  deriving DecidableEq

def Word.pattern (args : String) (w : Word) : List Wildcard :=
  w.flatMap fun
    | .char '*' false => [.anyMany]
    | .char '?' false => [.anyOne]
    | .char c _ => [.one c]
    | .arguments => args.toList.map .one

/-- Whether a text is of a pattern. -/
def fits : List Wildcard → List Char → Bool
  | [], s => s.isEmpty
  | .one c :: p, s => s.head? == some c && fits p (s.drop 1)
  | .anyOne :: p, s => !s.isEmpty && fits p (s.drop 1)
  | .anyMany :: p, s => (List.range (s.length + 1)).any fun n => fits p (s.drop n)

/-! ## Tokens -/

inductive Token where
  | word (w : Word)
  /-- The end of a command. -/
  | stop
  /-- The end of a branch. -/
  | branchEnd
  | bar
  | opening
  | closing
  /-- A redirection to the error output. -/
  | toError
  deriving DecidableEq

/-- Where a character stands. A word carries its pieces, the last one first. -/
inductive Mode where
  | gap
  | comment
  | plain (w : Word)
  | single (w : Word)
  | double (w : Word)

def endsWord (c : Char) : Bool :=
  c == ' ' || c == '\t' || c == '\n' || c == ';' || c == '|' || c == '(' || c == ')' || c == '>' ||
    c == '<' || c == '&'

/-- Cuts a script into tokens. Fails at what these scripts do not use. -/
def tokensFrom (m : Mode) (s : List Char) : Option (List Token) :=
  match m, s with
  | .gap, [] | .comment, [] => some []
  | .plain w, [] => some [.word w.reverse]
  | .single _, [] | .double _, [] => none
  | .comment, '\n' :: s => (tokensFrom .gap s).map (.stop :: ·)
  | .comment, _ :: s => tokensFrom .comment s
  | .single w, '\'' :: s => tokensFrom (.plain w) s
  | .single w, c :: s => tokensFrom (.single (.char c true :: w)) s
  | .double w, '"' :: s => tokensFrom (.plain w) s
  | .double w, '$' :: '*' :: s => tokensFrom (.double (.arguments :: w)) s
  | .double w, '\\' :: c :: s =>
    if c = '"' ∨ c = '\\' ∨ c = '$' ∨ c = '\x60' then tokensFrom (.double (.char c true :: w)) s
    else tokensFrom (.double (.char c true :: .char '\\' true :: w)) s
  | .double w, c :: s =>
    if c = '$' ∨ c = '\x60' then none else tokensFrom (.double (.char c true :: w)) s
  | .gap, '#' :: s => tokensFrom .comment s
  | .gap, '1' :: '>' :: '&' :: '2' :: s => (tokensFrom .gap s).map (.toError :: ·)
  | .gap, c :: s => if endsWord c then between c s else within [] c s
  | .plain w, c :: s =>
    if endsWord c then (between c s).map (.word w.reverse :: ·) else within w c s
  termination_by 2 * s.length
where
  /-- Goes on between words, at a character that stands in no word. -/
  between (c : Char) (s : List Char) : Option (List Token) :=
    match c, s with
    | ' ', s | '\t', s => tokensFrom .gap s
    | ';', ';' :: s => (tokensFrom .gap s).map (.branchEnd :: ·)
    | '>', '&' :: '2' :: s => (tokensFrom .gap s).map (.toError :: ·)
    | '\n', s | ';', s => (tokensFrom .gap s).map (.stop :: ·)
    | '|', s => (tokensFrom .gap s).map (.bar :: ·)
    | '(', s => (tokensFrom .gap s).map (.opening :: ·)
    | ')', s => (tokensFrom .gap s).map (.closing :: ·)
    | _, _ => none
  termination_by 2 * s.length + 1
  /-- Goes on within a word. -/
  within (w : Word) (c : Char) (s : List Char) : Option (List Token) :=
    match c, s with
    | '\'', s => tokensFrom (.single w) s
    | '"', s => tokensFrom (.double w) s
    | '$', '*' :: s => tokensFrom (.plain (.arguments :: w)) s
    | '\\', '\n' :: s => tokensFrom (.plain w) s
    | '\\', c :: s => tokensFrom (.plain (.char c true :: w)) s
    | '$', _ | '\\', _ | '\x60', _ => none
    | c, s => tokensFrom (.plain (.char c false :: w)) s
  termination_by 2 * s.length + 1

/-! ## Statements -/

/-- A command, whose output may go to the error output. -/
structure Command where
  words : List Word
  toError : Bool
  deriving DecidableEq

inductive Statement where
  | command (c : Command)
  /-- Runs the commands of the first branch that has a pattern for the subject. -/
  | choice (subject : Word) (branches : List (List Word × List Command))
  deriving DecidableEq

def keyword (s : String) : Token := .word (s.toList.map (.char · false))

/-- The tokens between separators. -/
def pieces (sep : Token) : List Token → List (List Token)
  | [] => [[]]
  | t :: l =>
    match pieces sep l with
    | [] => [[t]]
    | p :: ps => if t = sep then [] :: p :: ps else (t :: p) :: ps

def Token.word? : Token → Option Word
  | word w => some w
  | _ => none

/-- A command between two stops. There may be none. -/
def commandOf (l : List Token) : Option Command :=
  if l.all fun t => t.word?.isSome || t == .toError then
    some ⟨l.filterMap Token.word?, l.contains .toError⟩
  else none

def commandsOf (l : List Token) : Option (List Command) := (pieces .stop l).mapM commandOf

/-- A branch: patterns, and what is done for them. -/
def branchOf (l : List Token) : Option (List Word × List Command) := do
  let patterns := l.takeWhile (· != .closing)
  let commands ← commandsOf (l.drop (patterns.length + 1))
  return (patterns.filterMap Token.word?, commands)

/-- The branches of a choice. Text after the last branch is blank or one more branch. -/
def branchesOf (l : List Token) : Option (List (List Word × List Command)) :=
  ((pieces .branchEnd l).filter fun p => p.any (· != .stop)).mapM branchOf

def statementsUpTo : Nat → List Token → Option (List Statement)
  | _, [] => some []
  | 0, _ :: _ => none
  | n + 1, .stop :: l => statementsUpTo n l
  | n + 1, t :: l =>
    if t = keyword "case" then
      match l with
      | .word subject :: t' :: l =>
        if t' = keyword "in" then do
          let body := l.takeWhile (· != keyword "esac")
          let branches ← branchesOf body
          let rest ← statementsUpTo n (l.drop (body.length + 1))
          return .choice subject branches :: rest
        else none
      | _ => none
    else do
      let tokens := (t :: l).takeWhile (· != .stop)
      let command ← commandOf tokens
      let rest ← statementsUpTo n ((t :: l).drop tokens.length)
      return .command command :: rest

/-- Reads a script. The first line tells that it is one. -/
def parse? (source : String) : Option (List Statement) := do
  let _ ← Text.afterLeading? "#!" source
  let tokens ← tokensFrom .gap source.toList
  statementsUpTo tokens.length tokens

/-! ## Running -/

def isOctal (c : Char) : Bool := '0' ≤ c && c ≤ '7'

def octal (a b c : Char) : UInt8 :=
  UInt8.ofNat (((a.toNat - 48) * 8 + (b.toNat - 48)) * 8 + (c.toNat - 48))

/-- The bytes of a text with its escapes replaced. -/
def escaped : List Char → List UInt8
  | [] => []
  | '\\' :: 'n' :: s => 10 :: escaped s
  | '\\' :: 't' :: s => 9 :: escaped s
  | '\\' :: 'r' :: s => 13 :: escaped s
  | '\\' :: '\\' :: s => 92 :: escaped s
  | '\\' :: a :: b :: c :: s =>
    if isOctal a && isOctal b && isOctal c then octal a b c :: escaped s
    else 92 :: escaped (a :: b :: c :: s)
  | c :: s => Text.Utf8.encode c.toString ++ escaped s

/-- The bytes of a format. Each `%s` stands for the next of the values. -/
def formatted (values : List String) (format : String) : List UInt8 :=
  match Text.splitOnce? "%s" format, values with
  | some (before, _), [] => escaped before.toList
  | some (before, after), [v] =>
    escaped before.toList ++ Text.Utf8.encode v ++ escaped after.toList
  | some (before, after), v :: values =>
    escaped before.toList ++ Text.Utf8.encode v ++ formatted values after
  | none, _ => escaped format.toList

structure Progress where
  output : List UInt8
  errors : List UInt8
  status : Nat
  ended : Bool
  deriving DecidableEq

def Progress.start : Progress := ⟨[], [], 0, false⟩

def Progress.print (s : Progress) (toError : Bool) (bytes : List UInt8) : Progress :=
  if toError then { s with errors := s.errors ++ bytes, status := 0 }
  else { s with output := s.output ++ bytes, status := 0 }

/-- Runs a command. An unknown one fails. -/
def Command.run (args : String) (s : Progress) (c : Command) : Progress :=
  if s.ended then s
  else
    match c.words.map (Word.text args) with
    | [] => s
    | "echo" :: texts => s.print c.toError (escaped (String.intercalate " " texts).toList ++ [10])
    | "printf" :: format :: values => s.print c.toError (formatted values format)
    | "exit" :: status :: _ => 
      { s with status := (Numeral.unsigned? 10 255 status.toList).getD 2, ended := true }
    | ["exit"] => { s with ended := true }
    | ["true"] => { s with status := 0 }
    | ["false"] => { s with status := 1 }
    | _ => { s with status := 127 }

def Statement.run (args : String) (s : Progress) : Statement → Progress
  | command c => c.run args s
  | choice subject branches =>
    let subject := (subject.text args).toList
    match branches.find? fun b => b.1.any fun w => fits (w.pattern args) subject with
    | some (_, commands) => commands.foldl (Command.run args) s
    | none => s

/-- What a script prints for a query, its errors last, unless it fails. -/
def answer? (source : String) (q : Query) : Option String := do
  let statements ← parse? source
  let args := String.intercalate " " q.options
  let s := statements.foldl (Statement.run args) .start
  if s.status = 0 then some (Text.Utf8.decode s.output ++ Text.Utf8.decode s.errors) else none

private def sample : String :=
  "#!/bin/sh\ncase \"$*\" in\n--v*) echo version 7.2 ;;\n*) exit 9 ;;\nesac\n"

example : answer? sample .version = some "version 7.2\n" := by decide +kernel
example : answer? sample .help = none := by decide +kernel

end GuestSpec.Script

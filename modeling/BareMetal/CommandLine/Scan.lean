import BareMetal.CommandLine.Grammar

/-!
# Scanning the arguments of a level

The arguments are read from left to right up to a subcommand or the end.  An option without an
attached value waits for the next argument, and every value waits until the next argument settles
it: a value that is not of its kind is found out only then.  Behind `--` all is positional.
-/

namespace BareMetal.CommandLine

/-- Where the reader of a level stands. -/
structure Scan where
  found : Matches := []
  /-- The argument whose values are not yet settled. -/
  pending : Option (Argument × List String) := none
  /-- The pending option still waits for its value. -/
  awaiting : Bool := false
  positionals : List Argument
  trailing : Bool := false

namespace Scan

/-- The matches with one more; the values of a repeatable argument come behind one another. -/
def record (found : Matches) (a : Argument) (source : Source) (values : List Value) :
    Except Refusal Matches :=
  match found.find? a.name, a.action with
  | none, _ => .ok (found ++ [{ name := a.name, source, values }])
  | some _, .many _ =>
    .ok (found.map fun m => if m.name = a.name then { m with values := m.values ++ values } else m)
  | some _, _ => .error .argumentConflict

/-- Settles an argument with its values. -/
def settle (found : Matches) (a : Argument) (source : Source) (values : List String) :
    Except Refusal Matches :=
  match a.action with
  | .help => .error .displayHelp
  | .version => .error .displayVersion
  | .flag => record found a source []
  | .one k | .many k =>
    if values = [] then .error .invalidValue
    else if found.has a.name ∧ a.action = .one k then .error .argumentConflict
    else do record found a source (← values.mapM k.parse)

/-- Settles whatever is pending. -/
def settlePending (s : Scan) : Except Refusal Scan :=
  match s.pending with
  | none => .ok { s with awaiting := false }
  | some (a, values) => do
    let found ← settle s.found a .commandLine values
    return { s with found, pending := none, awaiting := false }

/-- Takes a flag, or an option with its value attached. -/
def take (s : Scan) (a : Argument) (values : List String) : Except Refusal Scan := do
  let s ← s.settlePending
  return { s with found := ← settle s.found a .commandLine values }

/-- Lets an option wait for its value. -/
def await (s : Scan) (a : Argument) : Except Refusal Scan := do
  let s ← s.settlePending
  return { s with pending := some (a, []), awaiting := true }

/-- Takes a long option: its name and the value behind an equals sign. -/
def takeLong (l : Level) (s : Scan) (name : String) (value : Option String) :
    Except Refusal Scan :=
  match l.options.find? (·.name == name) with
  | none => .error .unknownArgument
  | some a =>
    match a.action.takesValue, value with
    | true, some v => s.take a [v]
    | true, none => s.await a
    | false, some _ => .error .tooManyValues
    | false, none => s.take a []

/-- Takes short options that stand together; the first that has a value takes all the rest. -/
def takeShorts (l : Level) (s : Scan) : List Char → Except Refusal Scan
  | [] => .ok s
  | c :: rest =>
    match l.options.find? (·.short == some c) with
    | none => .error .unknownArgument
    | some a =>
      if a.action.takesValue then
        match rest with
        | [] => s.await a
        | '=' :: value => s.take a [String.ofList value]
        | value => s.take a [String.ofList value]
      else do
        takeShorts l (← s.take a []) rest

/-- Takes a positional argument; what no place is left for is refused. -/
def takePositional (l : Level) (s : Scan) (value : String) : Except Refusal Scan :=
  match s.positionals with
  | [] =>
    if l.subcommands.isEmpty ∨ (s.trailing ∧ value ∈ "help" :: l.subcommands) then
      .error .unknownArgument
    else .error .invalidSubcommand
  | a :: rest =>
    match a.action, s.pending with
    | .many _, some (b, values) =>
      if b.name = a.name then .ok { s with pending := some (a, values ++ [value]) }
      else do
        let s ← s.settlePending
        return { s with pending := some (a, [value]) }
    | .many _, none => .ok { s with pending := some (a, [value]) }
    | _, _ => do
      let s ← s.settlePending
      return { s with pending := some (a, [value]), positionals := rest }

/-- How an argument that is neither a subcommand nor `--` is to be read. -/
inductive Shape where
  | long (name : String) (value : Option String)
  | shorts (letters : List Char)
  | plain
  deriving DecidableEq, Repr

def Shape.ofText (s : String) : Shape :=
  match s.toList with
  | '-' :: '-' :: rest =>
    match Text.splitOnce '=' rest with
    | some (name, value) => .long (String.ofList name) (some (String.ofList value))
    | none => .long (String.ofList rest) none
  | ['-'] => .plain
  | '-' :: letters => .shorts letters
  | _ => .plain

/-- Takes an argument before `--`. -/
def takeArgument (l : Level) (s : Scan) (argument : String) : Except Refusal Scan :=
  match Shape.ofText argument with
  | .long name value => takeLong l s name value
  | .shorts letters => takeShorts l s letters
  | .plain =>
    match s.awaiting, s.pending with
    | true, some (a, values) =>
      .ok { s with pending := some (a, values ++ [argument]), awaiting := false }
    | _, _ => takePositional l s argument

/-- What the words behind the subcommand `help` lead to: they may name one subcommand. -/
def helpOn (l : Level) : List String → Refusal
  | [] => .displayHelp
  | [name] => if name ∈ "help" :: l.subcommands then .displayHelp else .invalidSubcommand
  | _ => .invalidSubcommand

/-- Reads the arguments of a level, up to a subcommand and what stands behind it. -/
def run (l : Level) (s : Scan) :
    List String → Except Refusal (Scan × Option (String × List String))
  | [] => .ok (s, none)
  | argument :: rest =>
    if s.trailing then do run l (← takePositional l s argument) rest
    else if s.awaiting = false ∧ argument ∈ l.subcommands then .ok (s, some (argument, rest))
    else if s.awaiting = false ∧ l.subcommands ≠ [] ∧ argument = "help" then
      .error (helpOn l rest)
    else if argument = "--" then run l { s with trailing := true } rest
    else do run l (← takeArgument l s argument) rest

end Scan

end BareMetal.CommandLine

import BareMetal.CommandLine.Value

/-!
# Grammars of command lines

What a tool accepts: options that go with every subcommand, and subcommands with options,
positional arguments and groups of which exactly one member has to be given.
-/

namespace BareMetal.CommandLine

/-- What an argument does. -/
inductive Action where
  | flag
  /-- It takes one value. -/
  | one (k : ValueKind)
  /-- It takes every value that is left for it. -/
  | many (k : ValueKind)
  | help
  | version
  deriving DecidableEq, Repr

def Action.takesValue : Action → Bool
  | one _ => true
  | many _ => true
  | _ => false

/-- An option, a flag or a positional argument. -/
structure Argument where
  /-- The name, which for an option follows its two dashes. -/
  name : String
  short : Option Char := none
  action : Action
  required : Bool := false
  /-- The variable of the environment that is used when the argument is absent. -/
  env : Option String := none
  default : Option String := none
  /-- The option that has to be given with this one. -/
  needs : Option String := none
  deriving DecidableEq, Repr

namespace Argument

def flag (name : String) (short : Option Char) : Argument := { name, short, action := .flag }

/-- An option with a value. -/
def option (name : String) (k : ValueKind) : Argument := { name, action := .one k }

/-- An argument that has to be there. -/
def needed (name : String) (k : ValueKind) : Argument :=
  { name, action := .one k, required := true }

/-- An option with a value when it is absent. -/
def withDefault (name : String) (k : ValueKind) (value : String) : Argument :=
  { name, action := .one k, default := some value }

end Argument

/-- The arguments of the tool or of one of its subcommands. -/
structure Level where
  options : List Argument
  positionals : List Argument := []
  /-- Names of options of which exactly one has to be given. -/
  groups : List (List String) := []
  /-- The names of the subcommands that may follow. -/
  subcommands : List String := []
  deriving DecidableEq, Repr

def helpOption : Argument := { name := "help", short := some 'h', action := .help }

def versionOption : Argument := { name := "version", short := some 'V', action := .version }

/-- A subcommand. -/
structure Subcommand where
  name : String
  options : List Argument := []
  positionals : List Argument := []
  groups : List (List String) := []
  deriving DecidableEq, Repr

/-- A command line tool. -/
structure Tool where
  name : String
  version : String
  /-- The options that may stand before and after the subcommand. -/
  globals : List Argument := []
  subcommands : List Subcommand
  deriving DecidableEq, Repr

namespace Tool

/-- The arguments before a subcommand. -/
def level (t : Tool) : Level where
  options := t.globals ++ [helpOption, versionOption]
  subcommands := t.subcommands.map (·.name)

/-- The arguments of a subcommand. -/
def subLevel (t : Tool) (s : Subcommand) : Level where
  options := s.options ++ t.globals ++ [helpOption]
  positionals := s.positionals
  groups := s.groups

end Tool

/-! ## What has been given -/

/-- Where a value comes from; later ones give way to earlier ones. -/
inductive Source where
  | commandLine
  | environment
  | default
  deriving DecidableEq, Repr

def Source.rank : Source → Nat
  | commandLine => 2
  | environment => 1
  | default => 0

/-- An argument that has been given; a flag has no values. -/
structure Match where
  name : String
  source : Source
  values : List Value
  deriving DecidableEq, Repr

/-- The arguments that have been given. -/
abbrev Matches := List Match

namespace Matches

def find? (ms : Matches) (name : String) : Option Match := List.find? (·.name == name) ms

/-- The argument has been given by the user and not by default. -/
def isExplicit (ms : Matches) (name : String) : Bool :=
  (find? ms name).any fun m => m.source ≠ .default

def has (ms : Matches) (name : String) : Bool := (find? ms name).isSome

def values (ms : Matches) (name : String) : List Value :=
  ((find? ms name).map (·.values)).getD []

def texts (ms : Matches) (name : String) : List String :=
  (values ms name).filterMap fun v => match v with
    | .text s => some s
    | _ => none

def text? (ms : Matches) (name : String) : Option String := (texts ms name).head?

def text (ms : Matches) (name : String) : String := (text? ms name).getD ""

def number? (ms : Matches) (name : String) : Option Nat :=
  (values ms name).findSome? fun v => match v with
    | .number n => some n
    | _ => none

def number (ms : Matches) (name : String) : Nat := (number? ms name).getD 0

def word? (ms : Matches) (name : String) : Option UInt32 := (number? ms name).map UInt32.ofNat

def word (ms : Matches) (name : String) : UInt32 := UInt32.ofNat (number ms name)

def start? (ms : Matches) (name : String) : Option StartAddress :=
  (values ms name).findSome? fun v => match v with
    | .start s => some s
    | _ => none

def flow (ms : Matches) (name : String) : Target.FlowControl :=
  ((values ms name).findSome? fun v => match v with
    | .flow f => some f
    | _ => none).getD .none

end Matches

end BareMetal.CommandLine

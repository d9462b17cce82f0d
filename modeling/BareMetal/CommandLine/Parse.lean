import BareMetal.CommandLine.Scan

/-!
# Reading a command line

Each level is scanned and completed: what is absent comes from the environment or from its default,
and the rules between arguments are checked.  A subcommand is completed before the level in front
of it.
-/

namespace BareMetal.CommandLine

/-- The variables of the environment. -/
abbrev Environment := List (String × String)

/-- A command line that has been read. -/
structure Parsed where
  subcommand : String
  given : Matches
  deriving DecidableEq, Repr

/-- Takes absent arguments from the environment. -/
def fillFromEnvironment (env : Environment) (l : Level) (found : Matches) :
    Except Refusal Matches :=
  l.options.foldlM (fun found a =>
    match a.env.bind fun name => List.lookup name env with
    | some value => if found.has a.name then .ok found else Scan.settle found a .environment [value]
    | none => .ok found) found

/-- Gives absent arguments their defaults. -/
def fillDefaults (l : Level) (found : Matches) : Except Refusal Matches :=
  (l.options ++ l.positionals).foldlM (fun found a =>
    match a.default with
    | some value => if found.has a.name then .ok found else Scan.settle found a .default [value]
    | none => .ok found) found

/-- No group has two members. -/
def checkConflicts (l : Level) (found : Matches) : Except Refusal Unit :=
  if l.groups.any fun g => 1 < (g.filter found.isExplicit).length then .error .argumentConflict
  else .ok ()

/-- Everything that has to be there is. -/
def checkRequired (l : Level) (found : Matches) : Except Refusal Unit :=
  let complete (a : Argument) : Bool :=
    (!a.required || found.isExplicit a.name) &&
      (!found.isExplicit a.name || a.needs.all found.isExplicit)
  if (l.options ++ l.positionals).all complete ∧ l.groups.all fun g => g.any found.isExplicit then
    .ok ()
  else .error .missingRequired

/-- Completes a level that has been scanned. -/
def complete (env : Environment) (l : Level) (s : Scan) : Except Refusal Matches := do
  let s ← s.settlePending
  fillDefaults l (← fillFromEnvironment env l s.found)

def check (l : Level) (found : Matches) : Except Refusal Unit := do
  checkConflicts l found
  checkRequired l found

/-- The arguments of a subcommand with the global options.  Each of these is taken from the
subcommand, unless it was given more explicitly in front of it. -/
def mergeGlobals (globals : List Argument) (outer inner : Matches) : Matches :=
  let names := globals.map (·.name)
  let own := inner.filter fun m => m.name ∉ names
  let shared := names.filterMap fun name =>
    match outer.find? name, inner.find? name with
    | some o, some i => some (if i.source.rank < o.source.rank then o else i)
    | some o, none => some o
    | none, i => i
  own ++ shared

/-- A tool without a subcommand shows its help if nothing else was asked for. -/
def withoutSubcommand (found : Matches) : Refusal :=
  if found.any fun m => m.source ≠ .default then .missingSubcommand else .displayHelpOnMissing

/-- Reads the arguments of a subcommand. -/
def parseSubcommand (env : Environment) (t : Tool) (name : String) (arguments : List String) :
    Except Refusal Matches := do
  match t.subcommands.find? (·.name == name) with
  | none => throw .invalidSubcommand
  | some s =>
    let l := t.subLevel s
    let (scan, _) ← Scan.run l { positionals := l.positionals } arguments
    let found ← complete env l scan
    check l found
    return found

/-- Reads a command line. -/
def parse (t : Tool) (env : Environment) (arguments : List String) : Except Refusal Parsed := do
  let l := t.level
  let (scan, rest) ← Scan.run l { positionals := [] } arguments
  match rest with
  | none => throw (withoutSubcommand (← complete env l scan))
  | some (subcommand, rest) =>
    let inner ← parseSubcommand env t subcommand rest
    let outer ← complete env l scan
    check l outer
    return { subcommand, given := mergeGlobals t.globals outer inner }

end BareMetal.CommandLine

import BareMetal.Log
import BareMetal.Pattern.Parse
import BareMetal.Text.Blank
import BareMetal.Text.Split

/-!
# Log filters

Which log records are shown: a level for all of them, or levels for those parts of a program whose
name begins in a given way, of which the longest that fits decides.  A pattern behind a slash has to
occur in the messages as well.  What cannot be understood is passed over with a warning.
-/

namespace BareMetal.Host

/-- The level up to which the records of some parts of a program are shown. -/
structure Directive where
  /-- How the names of the parts begin; none for all parts. -/
  target : Option String
  /-- Zero shows nothing. -/
  rank : Nat
  deriving DecidableEq, Repr

/-- A directive is about a part of a program. -/
def Directive.fits (d : Directive) (target : String) : Bool :=
  d.target.all fun start => target.startsWith start

/-- The bytes of the beginning that a directive asks for. -/
def Directive.length (d : Directive) : Nat := (d.target.map String.utf8ByteSize).getD 0

/-- A filter, by its directives in the order in which they were given. -/
structure LogFilter where
  directives : List Directive
  /-- What occurs in the messages that are shown. -/
  pattern : Option Pattern := none
  /-- What could not be understood. -/
  warnings : List String := []
  deriving DecidableEq, Repr

namespace LogFilter

/-- The highest level there is, one above debugging. -/
def maxRank : Nat := 5

/-- The level of a name in any case. -/
def rank? (name : List Char) : Option Nat :=
  ["OFF", "ERROR", "WARN", "INFO", "DEBUG", "TRACE"].findIdx?
    fun level => level.toList == name.map Char.toUpper

def malformed (text : List Char) : String :=
  "invalid logging spec '" ++ String.ofList text ++ "'"

/-- One part of a filter's text, or the warning that it cannot be understood. -/
def readDirective (cs : List Char) : Except String Directive :=
  match Text.splitOn '=' cs with
  | [name] =>
    match rank? name with
    | some rank => .ok { target := none, rank }
    | none => .ok { target := some (String.ofList name), rank := maxRank }
  | [name, level] =>
    let level := Text.trim level
    if level = [] then .ok { target := some (String.ofList name), rank := maxRank }
    else match rank? level with
      | some rank => .ok { target := some (String.ofList name), rank }
      | none => .error (malformed level)
  | _ => .error (malformed cs)

/-- Adds a directive, in place of one with the same target. -/
def addDirective (ds : List Directive) (d : Directive) : List Directive :=
  if ds.any (·.target == d.target) then ds.map fun e => if e.target = d.target then d else e
  else ds ++ [d]

/-- Adds what one part of a filter's text says. -/
def addPart (f : LogFilter) (cs : List Char) : LogFilter :=
  match readDirective cs with
  | .ok d => { f with directives := addDirective f.directives d }
  | .error warning => { f with warnings := f.warnings ++ [warning] }

/-- Adds the pattern that a text describes. -/
def addPattern (f : LogFilter) (text : List Char) : LogFilter :=
  match Pattern.parse (String.ofList text) with
  | .ok p => { f with pattern := some p }
  | .error e =>
    { f with warnings :=
        f.warnings ++ ["invalid regex filter - " ++ e.report (String.ofList text)] }

/-- The filter of some parts. -/
def ofParts (text : List Char) : LogFilter :=
  (((Text.splitOn ',' text).map Text.trim).filter (· ≠ [])).foldl addPart { directives := [] }

/-- The filter that a text describes; one without directives shows errors only. -/
def parse (s : String) : LogFilter :=
  let f := match Text.splitOn '/' s.toList with
    | [parts] => ofParts parts
    | [parts, pattern] => (ofParts parts).addPattern pattern
    | _ => { directives := [], warnings := [malformed s.toList ++ " (too many '/'s)"] }
  if f.directives = [] then
    { f with directives := [{ target := none, rank := Log.Level.error.rank }] }
  else f

/-- The directive for a part of a program. -/
def find? (f : LogFilter) (target : String) : Option Directive :=
  (f.directives.filter (·.fits target)).foldl (fun best d =>
    match best with
    | some b => if b.length ≤ d.length then some d else some b
    | none => some d) none

def shows (f : LogFilter) (r : Log.Record) : Bool :=
  ((f.find? r.target).any fun d => r.level.rank ≤ d.rank) &&
    f.pattern.all fun p => p.occursIn r.message

/-- A record as a line of the log; further lines of its message are indented. -/
def render (r : Log.Record) : String :=
  "[" ++ r.level.label ++ " " ++ r.target ++ "] " ++
    String.ofList (Text.replaceChar '\n' "\n    " r.message.toList) ++ "\n"

/-- A warning as a line of the log. -/
def renderWarning (warning : String) : String := "warning: " ++ warning ++ ", ignoring it\n"

end LogFilter

end BareMetal.Host

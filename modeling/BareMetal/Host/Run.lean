import BareMetal.Fault
import BareMetal.Shell.Program

/-!
# Tool runs

`Run` is the type of a step of a tool; it ends early with the chain of causes of an error, outermost
first, and keeps the world as it is then.
-/

namespace BareMetal.Host

/-- Why a run ends early. -/
inductive Failure where
  /-- An error, by the texts of its causes. -/
  | chain (causes : List String)
  /-- The tool has stopped at a fault. -/
  | fault (f : Fault)
  deriving DecidableEq, Repr

/-- A step of a tool. -/
abbrev Run (α : Type) := ExceptT Failure (StateM World) α

namespace Run

/-- Fails with an error that has no deeper cause. -/
def fail {α : Type} (message : String) : Run α := throw (.chain [message])

/-- An outcome as a step, with the causes of its error. -/
def ofExcept {ε α : Type} (causes : ε → List String) : Except ε α → Run α
  | .ok a => pure a
  | .error e => throw (.chain (causes e))

/-- An outcome of a computation on words as a step. -/
def ofFault {α : Type} : Except Fault α → Run α
  | .ok a => pure a
  | .error f => throw (.fault f)

/-- What the system has done or refused as a step. -/
def ofSystem {α : Type} : Except OsError α → Run α := ofExcept fun e => [e.message]

/-- Puts a text in front of the causes of an error. -/
def context {α : Type} (message : String) (x : Run α) : Run α :=
  tryCatch x fun e => match e with
    | .chain causes => throw (.chain (message :: causes))
    | .fault f => throw (.fault f)

def print (s : String) : Run Unit := modify fun w => w.print s

def printLine (s : String) : Run Unit := print (s ++ "\n")

def log (level : Log.Level) (target message : String) : Run Unit :=
  modify fun w => w.log { level, target, message }

/-! ## Files -/

def readFailure (path : String) : String := "Failed to read " ++ path

/-- The content of a file. -/
def readFile (path : String) : Run Bytes := do
  context (readFailure path) (ofSystem ((← get).files.read path))

/-- The content of a file that has to be UTF-8; `failure` says what could not be done. -/
def readTextOr (failure path : String) : Run String :=
  context failure do
    match Utf8.decode? (← ofSystem ((← get).files.read path)) with
    | some s => return s
    | none => fail "stream did not contain valid UTF-8"

def readText (path : String) : Run String := readTextOr (readFailure path) path

/-- Makes or replaces a file. -/
def writeFile (path : String) (content : Bytes) : Run Unit :=
  context ("Failed to write " ++ path) do
    let w ← get
    set (← ofSystem (do w.put content (← w.files.openPath .creating path)))

/-! ## Programs -/

/-- How a program that is run has ended. -/
def endText (s : Shell.State) : String :=
  match s.flow with
  | .killed signal =>
    "signal: " ++ Numeral.decimal signal ++
      match Shell.Signal.table[signal - 1]? with
      | some (name, _) => " (SIG" ++ name ++ ")"
      | none => ""
  | _ => "exit status: " ++ Numeral.decimal s.status

/-- Runs a program that is started from a state. -/
def spawn (scripts : Bool) (s : Shell.State) (program : String) (arguments : List String) :
    Run Shell.State := do
  let image ← ofSystem ({ s.search with scripts }.find (program :: arguments))
  let after := Shell.runImage image s
  set after.world
  return after

/-- The text of a program's end that is a failure. -/
def endFailure (program : String) (after : Shell.State) : String :=
  program ++ " failed (" ++ endText after ++ ")"

/-- Fails if a program has failed. -/
def demandSuccess (program : String) (after : Shell.State) : Run Unit :=
  if after.endStatus = 0 then return () else fail (endFailure program after)

/-- Runs a program, whose streams lead where those of the tool do, and fails if it does. -/
def call (program : String) (arguments : List String) : Run Unit := do
  demandSuccess program
    (← context ("Failed to run " ++ program) (spawn false (.ofWorld (← get)) program arguments))

/-- Runs a program for what it prints, and fails if it does. -/
def callFor (program : String) (arguments : List String) : Run Bytes := do
  let s := (Shell.State.ofWorld (← get)).catching
  let after ← context ("Failed to run " ++ program) (spawn false s program arguments)
  demandSuccess program after
  return after.caught Shell.State.bufferNumber

/-! ## Targets -/

/-- Shows what happened on a line; `progress` is printed with the errors for each step of a
transfer. -/
def showEvent (progress : String) (w : World) : Target.Event → World
  | .console text => w.print text
  | .log r => w.log r
  | .progress => w.printError progress

/-- Has a conversation over a line, and gives the line after it. -/
def converse {α : Type} (progress : String) (l : Target.Line) (t : Target.Talk α)
    (keep : Target.Line → World → World) : Run α := do
  let (result, after) := t { l with events := #[] }
  modify fun w => after.events.foldl (showEvent progress) (keep after w)
  ofExcept Target.Error.chain result

/-- Has a conversation over a serial line. -/
def converseSerial {α : Type} (name progress : String) (l : Target.Line) (t : Target.Talk α) :
    Run α :=
  converse progress l t fun after w => w.setSerial name after

end Run

end BareMetal.Host

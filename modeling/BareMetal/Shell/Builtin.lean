import BareMetal.Shell.Builtin.Directories
import BareMetal.Shell.Builtin.Flow
import BareMetal.Shell.Builtin.Names
import BareMetal.Shell.Builtin.Parameters
import BareMetal.Shell.Builtin.Signals
import BareMetal.Shell.Builtin.Variables
import BareMetal.Shell.Format

/-!
# Commands of the shell

The commands that the shell carries out itself.  Each gives its status, or fails.
-/

namespace BareMetal.Shell

open Host

namespace Builtin

/-! ## Texts and conditions -/

def printFormat : Action := fun arguments => do
  let (_, rest) ← readOptions "" arguments
  match rest with
  | [] => Act.fail "usage: printf format [arg ...]"
  | format :: arguments =>
    let p := Format.print format arguments
    for message in p.warnings do warn message
    let text := String.ofList p.printed.reverse
    match p.failure with
    | some message =>
      warn message
      let _ ← print text
      modify fun s => { s with status := 2, flow := .failed }
      throw ()
    | none =>
      let status ← print text
      return if p.warnings = [] then status else 1

/-- Gives the status of a condition. -/
def test : Action := fun arguments => do
  return if ← Condition.holds arguments then 0 else 1

def testInBrackets : Action := fun arguments => do
  if arguments.getLast? ≠ some "]" then Act.fail "missing ]"
  test arguments.dropLast

/-! ## Scripts -/

/-- Carries out its arguments as a script. -/
def evaluate (r : Runner) (tested : Bool) : Action
  | [] => return 0
  | arguments => do
    let s ← get
    let after := r.script (Text.joinWith " " arguments) tested s
    set { after with readLine := s.readLine }
    return after.status

/-- Runs the script in a file as a part of this one. -/
def includeFile (r : Runner) : Action := fun arguments => do
  let (_, rest) ← readOptions "" arguments
  match rest with
  | [] => return 0
  | name :: _ =>
    let s ← get
    let path ← do
      if name.contains '/' then pure name
      else match findFile? s s.searchPath name with
      | some path => pure path
      | none => Act.fail (name ++ ": not found")
    match s.readFile path with
    | .error .isDirectory | .error .outOfMemory => return 0
    | .error e => Act.fail ("cannot open " ++ path ++ ": " ++ openReason "No such file" e)
    | .ok content =>
      let after := r.script (Raw.ofBytes content) false { s with builtin := some path }
      let flow := if after.flow = .returning then .running else after.flow
      set { after with readLine := s.readLine, builtin := s.builtin, flow }
      return after.status

/-- Lets a program take the place of the script. -/
def exec (r : Runner) : Action
  | [] => return 0
  | arguments => do
    modify (r.program { arguments, replacing := true })
    return (← get).status

/-! ## All commands -/

/-- Tells limits, of which there are none. -/
def limits : Action := fun arguments => do
  let (_, rest) ← readOptions "HSatfdscmlpnvwr" arguments
  match rest with
  | [] => printLines ["unlimited"]
  | text :: _ =>
    if text ≠ "unlimited" && !text.toList.all Char.isDigit then Act.fail "bad number"
    else return 0

/-- Has one status and does nothing else. -/
def idle (status : Nat) : Action := fun _ => return status

/-- What a command does. -/
def action (r : Runner) (tested : Bool) (name : Raw) : Action :=
  match name with
  | "." => includeFile r
  | "eval" => evaluate r tested
  | "exec" => exec r
  | "exit" => exit
  | "return" => leave
  | "break" => leaveLoops .leaving
  | "continue" => leaveLoops .skipping
  | "set" => setAll
  | "shift" => shift
  | "export" => exportAll
  | "readonly" => protect
  | "local" => localAll
  | "unset" => unset
  | "trap" => trap
  | "echo" => fun arguments => print (String.ofList (echo arguments))
  | "printf" => printFormat
  | "test" => test
  | "[" => testInBrackets
  | "read" => read
  | "cd" | "chdir" => changeDirectory
  | "pwd" => printDirectory
  | "kill" => kill
  | "getopts" => getOptions
  | "hash" => hash
  | "type" => type
  | "command" => command
  | "alias" => aliases
  | "unalias" => unalias
  | "umask" => mask
  | "wait" => wait
  | "fg" | "bg" => moveJob
  | "ulimit" => limits
  | "false" => idle 1
  | _ => idle 0

/-- Carries out a command. -/
def run (r : Runner) (tested : Bool) (name : Raw) (arguments : List Raw) (s : State) : State :=
  let (outcome, after) := (action r tested name arguments).run.run { s with builtin := some name }
  let after := { after with builtin := s.builtin }
  match outcome with
  | .ok status => { after with status }
  | .error () => after

end Builtin

end BareMetal.Shell

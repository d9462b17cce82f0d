import BareMetal.Shell.Builtin.Basic
import BareMetal.Shell.Process

/-!
# Commands of the shell: signals and jobs

The commands that send signals, catch them, and wait for other commands.
-/

namespace BareMetal.Shell

open Host

namespace Builtin

/-! ## Commands that nobody waits for -/

/-- The number of the process that a text with a percent sign stands for. -/
def job (text : Raw) : Act Nat := do
  let processes := ((← get).jobs.map (·.1))
  let number := String.ofList (text.toList.drop 1)
  let found ← do
    if ["", "%", "+"].contains number then
      if processes = [] then Act.fail (α := Unit) "No current job"
      pure processes.head?
    else if number = "-" then
      if processes.length < 2 then Act.fail (α := Unit) "No previous job"
      pure (processes.drop 1).head?
    else pure ((Numeral.ofDigits? 10 number.toList).bind fun n =>
      if n = 0 then none else processes.reverse[n - 1]?)
  match found with
  | some process => return process
  | none => Act.fail ("No such job: " ++ text)

def isJob (text : Raw) : Bool := text.startsWith "%"

/-- Waits for commands that have been over from the start. -/
def wait : Action := fun arguments => do
  let (_, rest) ← readOptions "" arguments
  match rest.getLast? with
  | none => return 0
  | some text =>
    let process ← if isJob text then job text else Act.natural text
    return ((← get).jobs.lookup process).getD 127

/-- Brings commands to the front or to the back, which takes a terminal. -/
def moveJob : Action := fun arguments => do
  let (_, rest) ← readOptions "" arguments
  let text := rest.headD "%"
  let _ ← job (if isJob text || !text.toList.all Char.isDigit then text else "%" ++ text)
  Act.fail ("job " ++ rest.headD "(null)" ++ " not created under job control")

/-! ## Signals -/

def signalUsage : Raw :=
  "Usage: kill [-s sigspec | -signum | -sigspec] [pid | job]... or\nkill -l [exitstatus]"

/-- Sends a signal to some processes.  None but the script itself can be reached. -/
def signalAll (n : Nat) : List Raw → Act Nat
  | [] => return 0
  | text :: rest => do
    let process ← if isJob text then job text else Act.natural text
    if process = State.processId then
      modify fun s => s.send n
      signalAll n rest
    else if !isJob text && ((← get).jobs.lookup process).isSome then signalAll n rest
    else
      warn "No such process\n"
      let _ ← signalAll n rest
      return 1

/-- Lists the names of signals. -/
def listSignals : Action
  | [] => printLines ("0" :: (List.range' 1 (Signal.count - 1)).filterMap Signal.name?)
  | text :: _ => do
    let n ← Act.natural text
    let n := if 128 < n then n - 128 else n
    match if n = 0 then none else Signal.name? n with
    | some name => printLines [name]
    | none => Act.fail ("invalid signal number or exit status: " ++ text)

def kill : Action := fun arguments => do
  let first := arguments.headD ""
  if arguments = [] then Act.fail signalUsage
  let (number, list, rest) ← do
    if !first.startsWith "-" then pure (none, false, arguments)
    else match Signal.read? (String.ofList (first.toList.drop 1)) with
    | some n => pure (some n, false, arguments.drop 1)
    | none =>
      let (found, rest) ← readOptions "ls:" arguments
      let number ← match found.find? (·.1 = 's') with
        | some (_, name) =>
          match Signal.read? name with
          | some n => pure (some n)
          | none => Act.fail ("invalid signal number or name: " ++ name)
        | none => pure none
      pure (number, found.any (·.1 = 'l'), rest)
  if list then
    if number.isSome then Act.fail signalUsage else listSignals rest
  else if rest = [] then Act.fail signalUsage
  else signalAll (number.getD 15) rest

/-- Says what is to be done at a signal, or that nothing special is. -/
def setTrap (action : Option Raw) (n : Nat) : Act Unit := modify fun s =>
  let others := s.traps.filter (·.1 ≠ n)
  { s with traps := match action with
    | some text => if text = "-" then others else (n, text) :: others
    | none => others }

def setTraps (action : Option Raw) : List Raw → Act Nat
  | [] => return 0
  | name :: rest => do
    match Signal.read? name with
    | some n =>
      setTrap action n
      setTraps action rest
    | none =>
      modify fun s => s.complain ("trap: " ++ name ++ ": bad trap")
      return 1

def trap : Action := fun arguments => do
  let (_, rest) ← readOptions "" arguments
  match rest with
  | [] =>
    let s ← get
    let signals := (List.range Signal.count).filterMap fun n =>
      (s.traps.lookup n).map fun action =>
        "trap -- " ++ Raw.inQuotes action ++ " " ++ (Signal.name? n).getD ""
    printLines signals
  | [name] => setTraps none [name]
  | first :: names =>
    if first ≠ "" && (Numeral.ofDigits? 10 first.toList).any (· < Signal.count) then
      setTraps none (first :: names)
    else setTraps (some first) names

end Builtin

end BareMetal.Shell

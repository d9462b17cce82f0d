import BareMetal.Shell.Builtin.Basic

/-!
# Commands of the shell: the flow of a script

The commands that leave loops, functions, files and scripts.
-/

namespace BareMetal.Shell

namespace Builtin

/-- Ends what is being done in some way. -/
def setFlow (flow : Flow) : Act Unit := modify fun s => { s with flow }

def exit : Action
  | [] => do
    setFlow .ended
    let s ← get
    return s.keptStatus.getD s.status
  | text :: _ => do
    let n ← Act.natural text
    setFlow .ended
    return n

/-- Leaves a function or a file. -/
def leave : Action
  | [] => do
    setFlow .returning
    return (← get).status
  | text :: _ => do
    let n ← Act.natural text
    setFlow .returning
    return n

/-- Leaves loops; `flow` says how. -/
def leaveLoops (flow : Nat → Flow) (arguments : List Raw) : Act Nat := do
  let n ← match arguments with
    | [] => pure 1
    | text :: _ => do
      let n ← Act.natural text
      if n = 0 then Act.illegalNumber text
      pure n
  let loops := (← get).loops
  if 0 < loops then setFlow (flow (min n loops))
  return 0

end Builtin

end BareMetal.Shell

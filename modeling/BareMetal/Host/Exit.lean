import BareMetal.CommandLine.Parse
import BareMetal.Host.Run

/-!
# Ends of tool runs

How a tool ends: its exit status, and what it prints of an error or instead of working.
-/

namespace BareMetal.Host

/-- The end of a tool's run. -/
structure Exit where
  status : Nat
  world : World

namespace Exit

/-- The status of a tool whose command line is refused. -/
def usageStatus : Nat := 2

/-- The status of a tool that stops at a fault. -/
def faultStatus : Nat := 101

/-- A tool that does not begin its work. -/
def ofRefusal (t : CommandLine.Tool) (w : World) : CommandLine.Refusal → Exit
  | .displayHelp => { status := 0, world := w }
  | .displayVersion =>
    { status := 0, world := w.print (t.name ++ " " ++ t.version ++ "\n") }
  | _ => { status := usageStatus, world := w }

/-- A tool that has done its work, or has failed. -/
def ofOutcome (t : CommandLine.Tool) (w : World) : Except Failure Unit → Exit
  | .ok () => { status := 0, world := w }
  | .error (.chain causes) =>
    { status := 1
      world := w.printError
        (t.name ++ ": *** Error: " ++ Text.joinWith ": " causes ++ "\n") }
  | .error (.fault _) => { status := faultStatus, world := w }

/-- Runs a tool: `read` reads the command line and `work` carries it out. -/
def ofTool {ω : Type} (t : CommandLine.Tool) (read : Except CommandLine.Refusal ω)
    (work : ω → Run Unit) (w : World) : Exit :=
  match read with
  | .error r => ofRefusal t w r
  | .ok o =>
    let (result, w) := work o w
    ofOutcome t w result

end Exit

end BareMetal.Host

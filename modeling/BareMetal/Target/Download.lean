import BareMetal.Target.DebugServer
import BareMetal.Text.Blank
import BareMetal.Text.Numeral

/-!
# Downloads through a debug server

The commands that bring a kernel to a board: variables for the configuration scripts, the user's own
commands, the image, and the start.  `Download.steps` lists them, `Download.run` sends them one by
one, each after the response to the one before.
-/

namespace BareMetal.Target

/-- One step of a download. -/
inductive Step where
  | command (text : String)
  /-- A pause of so many milliseconds. -/
  | settle (ms : Nat)
  deriving DecidableEq, Repr

/-- What a download does. -/
structure Download where
  elf : String := ""
  /-- An address behind `0x`, or a symbol for the configuration scripts to resolve. -/
  startAddress : String := ""
  debug : Bool := false
  noload : Bool := false
  noexec : Bool := false
  commandFile : Option String := none
  commands : List String := []
  preLoad : List String := []
  settle : Option Nat := none
  postLoad : List String := []
  deriving DecidableEq, Repr

namespace Download

/-- The kernel is not started; in debug mode it never is. -/
def holdsStart (d : Download) : Bool := d.noexec || d.debug

/-- The commands between semicolons, trimmed; empty ones are none. -/
def splitCommands (list : String) : List String :=
  (((Text.splitOn ';' list.toList).map Text.trim).filter (· ≠ [])).map String.ofList

def flag (b : Bool) : String := if b then "1" else "0"

/-- The command that sets a variable of the configuration scripts. -/
def setCommand (name value : String) : String := "set " ++ name ++ " " ++ value ++ " ; list"

def quote (s : String) : String := "\"" ++ s ++ "\""

/-- The variables of the configuration scripts. -/
def settings (d : Download) : List String :=
  [setCommand "sweetada_elf" (quote d.elf),
   setCommand "start_address" d.startAddress,
   setCommand "debug_mode" (flag d.debug),
   setCommand "noload_flag" (flag d.noload),
   setCommand "noexec_flag" (flag d.holdsStart)]

def loadCommand (d : Download) : String := "load_image " ++ quote d.elf

def startCommand (d : Download) : String := "resume " ++ d.startAddress

/-- The steps in order. -/
def steps (d : Download) : List Step :=
  d.settings.map .command ++
    d.commandFile.toList.map (fun file => .command ("source " ++ quote file)) ++
    d.commands.map .command ++
    d.preLoad.map .command ++
    d.settle.toList.map .settle ++
    (if d.noload then [] else [.command d.loadCommand]) ++
    (if d.holdsStart then [] else [.command d.startCommand]) ++
    d.postLoad.map .command

/-- Takes one step; a pause is not visible on the line. -/
def perform (echo : Bool) : Step → Talk Unit
  | .command text => do
    let _ ← DebugServer.command text echo
  | .settle _ => pure ()

/-- Takes steps in order up to the first that fails. -/
def performAll (echo : Bool) : List Step → Talk Unit
  | [] => pure ()
  | step :: rest => do
    perform echo step
    performAll echo rest

/-- Sends a download over a line. -/
def run (d : Download) (echo : Bool) : Talk Unit := performAll echo d.steps

end Download

end BareMetal.Target

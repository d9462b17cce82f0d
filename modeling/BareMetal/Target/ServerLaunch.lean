import BareMetal.Host.Path
import BareMetal.Host.Platform

/-!
# Starting a debug server

A debug server is started in a terminal of its own, where its messages stay in sight, with its
installation at the front of the search path.
-/

namespace BareMetal.Target

open Host (Terminal)

/-- A program to run. -/
structure ServerLaunch where
  program : String
  arguments : List String
  /-- The program runs as long as the server does. -/
  detach : Bool
  deriving DecidableEq, Repr

namespace ServerLaunch

/-- Starts a server with a configuration file.  With `wait` the terminal stays when the server
ends. -/
def ofTerminal (t : Terminal) (config : String) (wait : Bool) : ServerLaunch :=
  match t with
  | .windows =>
    { program := "cmd.exe"
      arguments :=
        ["/C", "START", "cmd.exe", if wait then "/K" else "/C", "openocd.exe", "-f", config]
      detach := false }
  | .macOs =>
    { program := "/usr/bin/osascript"
      arguments :=
        ["-e", "tell application \"Terminal\"",
         "-e", "do script \"openocd -f \\\"" ++ config ++ "\\\"" ++
           (if wait then "" else " ; exit") ++ "\"",
         "-e", "end tell"]
      detach := false }
  | .xterm =>
    { program := "xterm"
      arguments := (if wait then ["-hold"] else []) ++ ["-e", "openocd", "-f", config]
      detach := true }

/-- The search path with the programs of an installation in front.  A path cannot hold a directory
with a colon in its name; the causes of that failure are given outermost first. -/
def searchPath (installation : String) (current : Option String) : Except (List String) String :=
  let bin := Host.Path.join installation "bin"
  if bin.contains ':' then
    .error ["Invalid OpenOCD prefix", "path segment contains separator `:`"]
  else
    let dirs := match current with
      | some path => (Text.splitOn ':' path.toList).map String.ofList
      | none => []
    .ok (Text.joinWith ":" (bin :: dirs))

end ServerLaunch

/-! ## Making a target reachable -/

/-- How the host's network is set up for a target. -/
structure NetworkSetup where
  interface : Option String := none
  hostIp : String := "192.168.2.1"
  mac : String := "00:d0:f1:02:bc:5d"
  deriving DecidableEq, Repr

/-- The commands, as program and arguments, that give the target at an address a route to the
host. -/
def NetworkSetup.commands (n : NetworkSetup) (interface target : String) :
    List (String × List String) :=
  [("ifconfig", ["-v", interface, n.hostIp]), ("arp", ["-s", target, n.mac])]

end BareMetal.Target

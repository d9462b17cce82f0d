import BareMetal.Host.FileSystem
import BareMetal.Host.LogFilter
import BareMetal.Target.Loader

/-!
# Worlds

What a tool works on: files, the environment, far ends, and what has been written to where the
output and the errors of the tool go.
-/

namespace BareMetal.Host

/-- The far ends that can be reached over the network; none if it is down. -/
structure Network where
  stream : Option Target.Line := none
  packets : Option Target.Loader.Socket := none

/-- Everything that a tool can see and change. -/
structure World where
  files : FileSystem := {}
  environment : List (String × String) := []
  /-- The serial lines by name. -/
  serial : List (String × Target.Line) := []
  network : Network := {}
  output : Bytes := #[]
  errors : Bytes := #[]

namespace World

/-! ## Output -/

/-- Adds bytes to a stream. -/
def write (w : World) (content : Bytes) : Stream → World
  | .output => { w with output := w.output ++ content }
  | .errors => { w with errors := w.errors ++ content }

def print (w : World) (s : String) : World := w.write (Bytes.ofText s) .output

def printError (w : World) (s : String) : World := w.write (Bytes.ofText s) .errors

/-- Replaces a serial line. -/
def setSerial (w : World) (name : String) (l : Target.Line) : World :=
  { w with serial := w.serial.map fun (other, old) => (other, if other = name then l else old) }

/-- Writes to a device. -/
def writeDevice (w : World) (content : Bytes) : Device → Except OsError World
  | .null | .zero => .ok w
  | .full => if content.size = 0 then .ok w else .error .noSpace
  | .stream s => .ok (w.write content s)
  | .serial name =>
    .ok (match w.serial.lookup name with
      | some l => w.setSerial name (l.deliver content)
      | none => w)
  | .absent => .error .noDevice

/-- Writes to what has been opened; a file has this content then. -/
def put (w : World) (content : Bytes) : Handle → Except OsError World
  | .file l _ executable => .ok { w with files := w.files.put l (.file content executable) }
  | .device d => w.writeDevice content d

/-! ## The environment -/

def lookupEnv (w : World) (name : String) : Option String := w.environment.lookup name

/-- The directories in which programs are searched for. -/
def searchPath (w : World) : String := (w.lookupEnv "PATH").getD "/bin:/usr/bin"

/-! ## The log -/

/-- The variable that holds the log filter. -/
def logVariable : String := "SWEETADA_LOG"

def logFilter (w : World) : LogFilter :=
  LogFilter.parse ((w.lookupEnv logVariable).getD "info")

def log (w : World) (r : Log.Record) : World :=
  if w.logFilter.shows r then w.printError (LogFilter.render r) else w

/-- Warns of what cannot be understood in the log filter. -/
def startLog (w : World) : World :=
  w.logFilter.warnings.foldl (fun w warning => w.printError (LogFilter.renderWarning warning)) w

end World

end BareMetal.Host

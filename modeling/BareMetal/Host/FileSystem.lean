import BareMetal.Bytes
import BareMetal.Host.OsError
import BareMetal.Host.Path

/-!
# Files

The files, directories, devices and programs of a host, by where they stand below its root.  Paths
are followed part by part, from the root or from the working directory of the tool.
-/

namespace BareMetal.Host

/-- Where the output of a tool goes. -/
inductive Stream where
  | output
  | errors
  deriving DecidableEq, Repr

/-- What can be read and written like a file and is none. -/
inductive Device where
  /-- Takes everything and holds nothing. -/
  | null
  /-- Takes everything and is an endless source of zeros. -/
  | zero
  /-- Takes nothing. -/
  | full
  /-- Passes on what is written to where the output of the tool goes. -/
  | stream (s : Stream)
  /-- A serial line. -/
  | serial (name : String)
  /-- Is not there for this tool. -/
  | absent
  deriving DecidableEq, Repr

/-- A place in the file system, by the names that lead to it from the root. -/
abbrev Location := List String

/-- What a name in a directory stands for. -/
inductive Node where
  | file (content : Bytes) (executable : Bool)
  | directory
  /-- Stands for what is at another place. -/
  | link (target : Location)
  | device (d : Device)
  /-- A program that every system has. -/
  | program (name : String)
  deriving DecidableEq, Repr

/-! ## What every system has -/

/-- Where the programs of the system stand. -/
def programDirectory : Location := ["usr", "bin"]

/-- The programs that every system has. -/
def systemPrograms : List String := ["true", "false", "echo", "cat", "env", "sh"]

/-- The directory in which a tool starts. -/
def workingDirectory : Location := ["tmp", "work"]

/-- The directories of the system. -/
def systemDirectories : List Location :=
  [["dev"], ["etc"], ["home"], ["opt"], ["proc"], ["proc", "self"], ["proc", "self", "fd"],
   ["root"], ["sys"], ["tmp"], workingDirectory, ["usr"], programDirectory, ["usr", "lib"],
   ["usr", "local"], ["usr", "local", "bin"], ["usr", "sbin"], ["var"], ["var", "tmp"]]

/-- The names in the system that stand for something elsewhere. -/
def systemLinks : List (Location × Location) :=
  [(["bin"], programDirectory), (["lib"], ["usr", "lib"]), (["sbin"], ["usr", "sbin"]),
   (["dev", "fd"], ["proc", "self", "fd"]), (["dev", "stdin"], ["proc", "self", "fd", "0"]),
   (["dev", "stdout"], ["proc", "self", "fd", "1"]),
   (["dev", "stderr"], ["proc", "self", "fd", "2"])]

/-- The devices of the system.  The standard input of a tool is empty. -/
def systemDevices : List (Location × Device) :=
  [(["dev", "null"], .null), (["dev", "zero"], .zero), (["dev", "full"], .full),
   (["dev", "tty"], .absent), (["proc", "self", "fd", "0"], .null),
   (["proc", "self", "fd", "1"], .stream .output), (["proc", "self", "fd", "2"], .stream .errors)]

/-- All that stands in a system. -/
def systemNodes : List (Location × Node) :=
  systemDirectories.map (fun l => (l, .directory)) ++
    systemLinks.map (fun (l, target) => (l, .link target)) ++
    systemDevices.map (fun (l, d) => (l, .device d)) ++
    systemPrograms.map fun name => (programDirectory ++ [name], .program name)

/-! ## File systems -/

/-- What something is opened for. -/
inductive Access where
  | reading
  /-- Writing to what is there. -/
  | writing
  /-- Writing to what is there, or to a new file. -/
  | creating
  deriving DecidableEq, Repr

/-- What has been opened. -/
inductive Handle where
  | file (l : Location) (content : Bytes) (executable : Bool)
  | device (d : Device)
  deriving DecidableEq, Repr

/-- The nodes by location.  Where a location occurs twice, the first counts. -/
structure FileSystem where
  nodes : List (Location × Node) := systemNodes
  deriving DecidableEq, Repr

namespace FileSystem

/-- What stands at a location; the root is a directory. -/
def node? (fs : FileSystem) (l : Location) : Option Node :=
  if l = [] then some .directory else fs.nodes.lookup l

/-- The file system with something put at a location. -/
def put (fs : FileSystem) (l : Location) (n : Node) : FileSystem :=
  if fs.nodes.any (·.1 == l) then
    { nodes := fs.nodes.map fun (m, old) => if m = l then (m, n) else (m, old) }
  else { nodes := fs.nodes ++ [(l, n)] }

/-- The location that a name stands for. -/
def target (fs : FileSystem) (l : Location) : Location :=
  match fs.node? l with
  | some (.link target) => target
  | _ => l

def isDirectory (fs : FileSystem) (l : Location) : Bool :=
  match fs.node? l with
  | some .directory => true
  | _ => false

/-- The bytes of a name and of a path at most. -/
def maxName : Nat := 255
def maxPath : Nat := 4095

/-- Follows the parts of a path; only the last one may be missing. -/
def walk (fs : FileSystem) (base : Location) : List String → Except OsError Location
  | [] => .ok base
  | part :: rest =>
    if !fs.isDirectory base then .error .notDirectory
    else if part = "." then walk fs base rest
    else if part = ".." then walk fs base.dropLast rest
    else if maxName < part.utf8ByteSize then .error .nameTooLong
    else
      let next := fs.target (base ++ [part])
      if rest ≠ [] ∧ (fs.node? next).isNone then .error .notFound else walk fs next rest

/-- Where a path leads. -/
def locate (fs : FileSystem) (path : String) : Except OsError Location :=
  if path = "" then .error .notFound
  else if maxPath < path.utf8ByteSize then .error .nameTooLong
  else fs.walk (if path.startsWith "/" then [] else workingDirectory) (Path.steps path)

/-! ## Opening -/

/-- The system itself makes all that stands at such a place. -/
def isFixed (l : Location) : Bool := l.head? == some "proc"

/-- Opens what a path leads to.  A slash at its end asks for a directory, and no directory can be
read or written. -/
def openPath (fs : FileSystem) (a : Access) (path : String) : Except OsError Handle := do
  let l ← fs.locate path
  match fs.node? l with
  | none =>
    if a ≠ .creating ∨ isFixed l then throw .notFound
    else if path.endsWith "/" then throw .isDirectory
    else return .file l #[] false
  | some .directory => throw .isDirectory
  | some n =>
    if path.endsWith "/" then throw (if a = .creating then .isDirectory else .notDirectory)
    match n with
    | .file content executable => return .file l content executable
    | .device .absent => throw .noDevice
    | .device d => return .device d
    | _ => return .file l #[] true

/-- What can be read from a device, whose end has to come. -/
def deviceContent : Device → Except OsError Bytes
  | .zero | .full => .error .outOfMemory
  | _ => .ok #[]

/-- The content of a file. -/
def read (fs : FileSystem) (path : String) : Except OsError Bytes := do
  match ← fs.openPath .reading path with
  | .file _ content _ => return content
  | .device d => deviceContent d

/-- Everything below the working directory, by the names that lead to it from there. -/
def below (fs : FileSystem) : List (Location × Node) :=
  fs.nodes.filterMap fun (l, n) =>
    if workingDirectory.isPrefixOf l then some (l.drop workingDirectory.length, n) else none

/-- The file system with something put below the working directory. -/
def putBelow (fs : FileSystem) (l : Location) (n : Node) : FileSystem :=
  fs.put (workingDirectory ++ l) n

end FileSystem

end BareMetal.Host

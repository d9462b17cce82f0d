import BareMetal.Host.FileSystem
import BareMetal.Text.Utf8

/-!
# Programs on the host

How the system comes from a path or a name to what it runs: a program that every system has, or a
file whose first line names the program that interprets it.
-/

namespace BareMetal.Host

/-- What is run in the end: a program of the system, and what it is called with, its own name
first. -/
structure Image where
  program : String
  arguments : List String
  deriving DecidableEq, Repr

namespace FileSystem

/-- What can be run at a path. -/
def programAt (fs : FileSystem) (path : String) : Except OsError Node := do
  match fs.node? (← fs.locate path) with
  | none => throw .notFound
  | some (.file content true) =>
    if path.endsWith "/" then throw .notDirectory else return .file content true
  | some (.program name) =>
    if path.endsWith "/" then throw .notDirectory else return .program name
  | some _ => throw .notPermitted

end FileSystem

namespace Image

/-! ## Interpreters -/

/-- The bytes at the start of a file that tell how it is run. -/
def headSize : Nat := 256

def isBlank (b : UInt8) : Bool := b == 0x20 || b == 0x09

/-- A byte behind which the name of an interpreter is over. -/
def endsName (b : UInt8) : Bool := isBlank b || b == 0

/-- The first line of a file without its mark and the blanks at its end, if it can tell an
interpreter.  A line that goes on beyond the start of the file has to tell it before. -/
def firstLine? (content : Bytes) : Option (List UInt8) :=
  let head := (content.extract 0 headSize).toList
  let padded := (head ++ List.replicate (headSize - head.length) 0).drop 2
  let line := padded.takeWhile (· ≠ 0x0A)
  let trim (bytes : List UInt8) : List UInt8 := (bytes.reverse.dropWhile isBlank).reverse
  if head.take 2 ≠ [0x23, 0x21] then none
  else if line.length < padded.length then some (trim line)
  else if (line.dropWhile isBlank).any endsName then some (trim line.dropLast)
  else none

/-- The interpreter that a file asks for, and the argument for it. -/
def interpreter? (content : Bytes) : Option (String × Option String) := do
  let line := (← firstLine? content).dropWhile isBlank
  if line = [] then none
  else
    let text (bytes : List UInt8) : String := Utf8.decodeLossy bytes.toArray
    let name := line.takeWhile fun b => !endsName b
    let behind := line.drop name.length
    let argument := (behind.dropWhile isBlank).takeWhile (· ≠ 0)
    some (text name, if argument = [] then none else some (text argument))

/-- How many interpreters may interpret one another. -/
def maxDepth : Nat := 6

/-- What is run when the program at a path is started with some arguments. -/
def load (programAt : String → Except OsError Node) :
    Nat → String → List String → Except OsError Image
  | 0, _, _ => .error .tooManyLinks
  | depth + 1, path, arguments => do
    match ← programAt path with
    | .program name => return { program := name, arguments }
    | .file content _ =>
      match interpreter? content with
      | some (name, argument) =>
        load programAt depth name (name :: argument.toList ++ path :: arguments.drop 1)
      | none => throw .badFormat
    | _ => throw .notPermitted

/-! ## Search -/

/-- How a program is looked for. -/
structure Search where
  programAt : String → Except OsError Node
  /-- The directories for names that are no paths, separated by colons. -/
  path : String
  /-- A file that does not tell what interprets it is interpreted by the shell. -/
  scripts : Bool

/-- What is run when the program at a path is started, with its name and arguments. -/
def Search.load (s : Search) (path : String) (arguments : List String) : Except OsError Image :=
  match Image.load s.programAt maxDepth path arguments with
  | .error .badFormat =>
    if s.scripts then
      .ok { program := "sh", arguments := "/bin/sh" :: path :: arguments.drop 1 }
    else .error .badFormat
  | outcome => outcome

/-- Tries the directories in turn.  A program that may not be run is passed over, and told of when
there is no other; `missing` is told of when there is none at all. -/
def Search.tryAll (s : Search) (name : String) (arguments : List String) (refused : Bool)
    (missing : OsError) : List String → Except OsError Image
  | [] => .error (if refused then .notPermitted else missing)
  | directory :: rest =>
    match s.load (if directory = "" then name else directory ++ "/" ++ name) arguments with
    | .error .notPermitted => s.tryAll name arguments true missing rest
    | .error .notFound => s.tryAll name arguments refused .notFound rest
    | .error .notDirectory => s.tryAll name arguments refused .notDirectory rest
    | outcome => outcome

/-- What is run when a program is started by its name or path, which is its first argument. -/
def Search.find (s : Search) (arguments : List String) : Except OsError Image :=
  let name := arguments.headD ""
  if name = "" then .error .notFound
  else if name.contains '/' then s.load name arguments
  else if FileSystem.maxName < name.utf8ByteSize then .error .nameTooLong
  else
    s.tryAll name arguments false .notFound ((Text.splitOn ':' s.path.toList).map String.ofList)

end Image

end BareMetal.Host

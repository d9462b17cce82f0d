import BareMetal.Host.World
import BareMetal.Shell.Grammar

/-!
# States of programs

What a running program or script has before it: the world, its parameters and variables, and where
its streams lead.
-/

namespace BareMetal.Shell

open Host

/-! ## Open files -/

/-- What a stream leads to. -/
inductive Target where
  | file (l : Location)
  | device (d : Device)
  /-- A directory, from which nothing can be read. -/
  | directory
  /-- A buffer, whose writers add to its end. -/
  | pipe (content : Bytes)
  deriving DecidableEq, Repr

/-- Something open; all streams that lead to it share the position. -/
structure Opened where
  target : Target
  position : Nat := 0
  /-- What is written goes behind everything else. -/
  append : Bool := false
  readable : Bool := true
  writable : Bool := true
  deriving DecidableEq, Repr

/-! ## The flow of a script -/

/-- Whether a script goes on. -/
inductive Flow where
  | running
  /-- Some loops are to be left. -/
  | leaving (loops : Nat)
  /-- Some loops are to be left but the last, which goes on with its next round. -/
  | skipping (loops : Nat)
  /-- A function or a file is to be left. -/
  | returning
  /-- Something is wrong that a script does not survive. -/
  | failed
  | ended
  /-- Ended by a signal. -/
  | killed (signal : Nat)
  deriving DecidableEq, Repr

/-! ## Variables -/

/-- A variable, which may have no value yet. -/
structure Binding where
  value : Option Raw
  /-- Programs that are started get to see it. -/
  exported : Bool := false
  constant : Bool := false
  deriving DecidableEq, Repr

/-- Something that is as it has been when a function or a command is over. -/
inductive Kept where
  | binding (name : Raw) (was : Option Binding)
  | options (were : List String)
  deriving DecidableEq, Repr

/-- The state of a program. -/
structure State where
  world : World
  /-- Everything that has been opened, by number. -/
  opened : Array Opened := #[]
  /-- What the streams lead to. -/
  streams : List (Nat × Nat) := []
  /-- The name of the script in messages. -/
  name : Raw := "sh"
  /-- The command of the shell that is being carried out. -/
  builtin : Option Raw := none
  /-- The line of the command, and the one that is being read. -/
  line : Nat := 0
  readLine : Nat := 0
  parameters : List Raw := []
  /-- The variables by name. -/
  bindings : List (Raw × Binding) := []
  functions : List (Raw × Command) := []
  aliases : List (Raw × Raw) := []
  /-- The programs that have been found, with the search paths that counted then. -/
  located : List (Raw × Raw) := []
  /-- The documents in scripts, by number. -/
  documents : List (Nat × Word) := []
  nextKey : Nat := 0
  /-- The names of the options that are set. -/
  options : List String := []
  /-- What is to be done at signals; the end of the script counts as signal zero. -/
  traps : List (Nat × Raw) := []
  pending : List Nat := []
  /-- How many processes of the script there are around this one, and what they have sent to the
  outermost. -/
  forks : Nat := 0
  sent : List Nat := []
  /-- The status that counts at the end of what is done at a signal. -/
  keptStatus : Option Nat := none
  /-- What has been before the functions and commands that go on, innermost first. -/
  saved : List (List Kept) := []
  /-- The loops of the function. -/
  loops : Nat := 0
  /-- Where to look for the next option of the script. -/
  optionIndex : Nat := 1
  optionOffset : Option Nat := none
  /-- What relative paths are seen from; empty for the directory of the tool. -/
  directory : String := ""
  mask : Nat := 0o022
  status : Nat := 0
  /-- The status of the last command whose output was used. -/
  outputStatus : Nat := 0
  /-- The commands that nobody waits for, by their processes. -/
  jobs : List (Nat × Nat) := []
  flow : Flow := .running

namespace State

/-- The number of the process that a script is. -/
def processId : Nat := 2

def isRunning (s : State) : Bool := s.flow = .running

/-! ## Options -/

/-- The options by name, with their letters. -/
def optionTable : List (String × Option Char) :=
  [("errexit", some 'e'), ("noglob", some 'f'), ("ignoreeof", some 'I'),
   ("interactive", some 'i'), ("monitor", some 'm'), ("noexec", some 'n'), ("stdin", some 's'),
   ("xtrace", some 'x'), ("verbose", some 'v'), ("vi", some 'V'), ("emacs", some 'E'),
   ("noclobber", some 'C'), ("allexport", some 'a'), ("notify", some 'b'), ("nounset", some 'u'),
   ("privileged", some 'p'), ("nolog", none), ("debug", none)]

def hasOption (s : State) (name : String) : Bool := s.options.contains name

def setOption (s : State) (name : String) (value : Bool) : State :=
  let others := s.options.filter (· ≠ name)
  { s with options := if value then name :: others else others }

/-- The letters of the options that are set. -/
def optionLetters (s : State) : List Char :=
  optionTable.reverse.filterMap fun (name, letter) => if s.hasOption name then letter else none

/-! ## Variables -/

/-- Changes a variable. -/
def setBinding (s : State) (name : Raw) (b : Binding) : State :=
  if s.bindings.any (·.1 == name) then
    { s with bindings := s.bindings.map fun (n, old) => (n, if n = name then b else old) }
  else { s with bindings := s.bindings ++ [(name, b)] }

/-- Makes something what it has been. -/
def restore (s : State) : Kept → State
  | .binding name (some b) => s.setBinding name b
  | .binding name none => { s with bindings := s.bindings.filter (·.1 ≠ name) }
  | .options were => { s with options := were }

def value? (s : State) (name : Raw) : Option Raw := (s.bindings.lookup name).bind (·.value)

/-- The characters that separate the fields of a text. -/
def defaultSeparators : Raw := " \t\n"

def separators (s : State) : Raw := (s.value? "IFS").getD defaultSeparators

/-- Takes a variable away.  One that says where programs are stays, without a value. -/
def removeBinding (s : State) (name : Raw) : State :=
  if name = "PATH" then s.setBinding name { value := none }
  else { s with bindings := s.bindings.filter (·.1 ≠ name) }

/-- The directories in which programs are searched for. -/
def searchPath (s : State) : Raw :=
  match s.bindings.lookup "PATH" with
  | some b => b.value.getD ""
  | none => "/bin:/usr/bin"

/-- Starts to keep what things are before they change. -/
def pushSaved (s : State) : State := { s with saved := [] :: s.saved }

/-- Makes everything kept what it has been when there were `depth` frames. -/
def restoreSaved (depth : Nat) (s : State) : State :=
  let inner := s.saved.take (s.saved.length - depth)
  inner.flatten.foldl restore { s with saved := s.saved.drop inner.length }

/-- The working directory, by its whole path. -/
def place (s : State) : Raw :=
  if s.directory = "" then "/" ++ Text.joinWith "/" workingDirectory else Raw.ofText s.directory

/-! ## Streams -/

/-- Opens something, and gives its number. -/
def openTarget (s : State) (o : Opened) : Nat × State :=
  (s.opened.size, { s with opened := s.opened.push o })

/-- Leads a stream to something that is open. -/
def lead (s : State) (stream number : Nat) : State :=
  { s with streams := (stream, number) :: s.streams.filter (·.1 ≠ stream) }

def close (s : State) (stream : Nat) : State :=
  { s with streams := s.streams.filter (·.1 ≠ stream) }

/-- What a stream leads to. -/
def opened? (s : State) (stream : Nat) : Option (Nat × Opened) := do
  let number ← s.streams.lookup stream
  return (number, ← s.opened[number]?)

def setOpened (s : State) (number : Nat) (o : Opened) : State :=
  { s with opened := s.opened.setIfInBounds number o }

/-- Opens a file for a stream. -/
def openFor (s : State) (stream : Nat) (o : Opened) : State :=
  let (number, s) := s.openTarget o
  s.lead stream number

/-- A content with something written at a position. -/
def overwrite (old : Bytes) (position : Nat) (new : Bytes) : Bytes :=
  Bytes.padTo position (old.extract 0 position) ++ new ++
    old.extract (position + new.size) old.size

/-- Writes to a stream. -/
def write (s : State) (content : Bytes) (stream : Nat) : Except OsError State :=
  match s.opened? stream with
  | none => .error .badDescriptor
  | some (number, o) =>
    if !o.writable then .error .badDescriptor
    else match o.target with
    | .pipe old => .ok (s.setOpened number { o with target := .pipe (old ++ content) })
    | .device d => do return { s with world := ← s.world.writeDevice content d }
    | .directory => .error .badDescriptor
    | .file l =>
      match s.world.files.node? l with
      | some (.file old executable) => do
        if content.size = 0 then return s
        let position := if o.append then old.size else o.position
        let new := overwrite old position content
        let world ← s.world.put new (.file l old executable)
        return { s with world }.setOpened number { o with position := position + content.size }
      | _ => .ok s

/-- Everything that is still to be read from a stream. -/
def unread (s : State) (stream : Nat) : Except OsError Bytes :=
  match s.opened? stream with
  | none => .error .badDescriptor
  | some (_, o) =>
    if !o.readable then .error .badDescriptor
    else match o.target with
    | .pipe content => .ok (content.extract o.position content.size)
    | .device d => FileSystem.deviceContent d
    | .directory => .error .isDirectory
    | .file l =>
      match s.world.files.node? l with
      | some (.file content _) => .ok (content.extract o.position content.size)
      | _ => .ok #[]

/-- Passes over some bytes of a stream. -/
def skip (s : State) (stream count : Nat) : State :=
  match s.opened? stream with
  | some (number, o) => s.setOpened number { o with position := o.position + count }
  | none => s

/-- Reads everything from a stream. -/
def readAll (s : State) (stream : Nat) : Except OsError (Bytes × State) := do
  let content ← s.unread stream
  return (content, s.skip stream content.size)

/-- What has been written to a buffer. -/
def caught (s : State) (number : Nat) : Bytes :=
  match s.opened[number]? with
  | some { target := .pipe content, .. } => content
  | _ => #[]

/-! ## Messages -/

/-- Prints an error message. -/
def complain (s : State) (message : Raw) : State :=
  ((s.write (Raw.bytes (message ++ "\n")) 2).toOption).getD s

/-- Prints an error message of a script. -/
def warn (s : State) (message : Raw) : State :=
  let command : Raw := match s.builtin with
    | some name => name ++ ": "
    | none => ""
  s.complain (s.name ++ ": " ++ Numeral.decimal s.line ++ ": " ++ command ++ message)

/-- Ends what is being done with an error. -/
def fail (s : State) (message : Raw) : State :=
  { s.warn message with status := 2, flow := .failed }

/-- Ends what is being done because of the script itself. -/
def failReading (s : State) (message : Raw) : State :=
  { s with line := s.readLine }.fail ("Syntax error: " ++ message)

/-! ## Paths -/

/-- A path as the tool sees it. -/
def path (s : State) (p : Raw) : String := Path.join s.directory (Raw.toText p)

/-- The stream of this program that a location stands for. -/
def streamAt? : Location → Option Nat
  | ["proc", "self", "fd", name] => Numeral.ofDigits? 10 name.toList
  | _ => none

/-- Opens what a path leads to. -/
def openPath (s : State) (a : Access) (p : Raw) : Except OsError (Handle ⊕ Opened) := do
  if p = "" then throw .notFound
  let own := ((s.world.files.locate (s.path p)).toOption.bind streamAt?).bind s.opened?
  match own with
  | some (_, o) =>
    match o.target with
    | .file l =>
      match s.world.files.node? l with
      | some (.file content executable) => return .inl (.file l content executable)
      | _ => throw .notFound
    | _ => return .inr o
  | none => return .inl (← s.world.files.openPath a (s.path p))

/-- The content of a file. -/
def readFile (s : State) (p : Raw) : Except OsError Bytes := do
  match ← s.openPath .reading p with
  | .inl (.file _ content _) => return content
  | .inl (.device d) => FileSystem.deviceContent d
  | .inr o =>
    match o.target with
    | .pipe content => return content.extract o.position content.size
    | .device d => FileSystem.deviceContent d
    | .directory => throw .isDirectory
    | .file _ => return #[]

/-- Where a path leads. -/
def locate? (s : State) (p : Raw) : Option Location :=
  if p = "" then none else (s.world.files.locate (s.path p)).toOption

/-- What stands at a path. -/
def node? (s : State) (p : Raw) : Option Node := do
  match s.world.files.node? (← s.locate? p) with
  | some (.file content executable) =>
    if p.endsWith "/" then none else some (.file content executable)
  | n => n

/-! ## Processes -/

/-- The state as a new process of the script sees it. -/
def forked (s : State) : State :=
  { s with
    traps := s.traps.filter (·.2 = "")
    pending := []
    keptStatus := none
    jobs := []
    forks := s.forks + 1
    sent := [] }

/-- The state after a process has run from it. -/
def after (s inner : State) : State :=
  { s with world := inner.world, opened := inner.opened, sent := s.sent ++ inner.sent }

/-- The status of a program that has ended. -/
def endStatus (s : State) : Nat :=
  match s.flow with
  | .killed signal => 128 + signal
  | _ => s.status

end State

/-! ## Actions -/

/-- What may fail, after it has changed the state and said why. -/
abbrev Act (α : Type) := ExceptT Unit (StateM State) α

namespace Act

/-- Fails with an error that a script does not survive. -/
def fail {α : Type} (message : Raw) : Act α := do
  modify fun s => s.fail message
  throw ()

/-- Gives a variable a value. -/
def setVariable (name value : Raw) (exported : Bool) : Act Unit := do
  if !Raw.isName name then
    Act.fail (String.ofList (name.toList.takeWhile (· ≠ '=')) ++ ": bad variable name")
  let s ← get
  let b := (s.bindings.lookup name).getD { value := none }
  if b.constant then Act.fail (name ++ ": is read only")
  let b := { b with
    value := some value
    exported := b.exported || exported || s.hasOption "allexport" }
  let s := s.setBinding name b
  if name = "OPTIND" then
    set { s with
      optionIndex := max 1 ((Numeral.ofDigits? 10 value.toList).getD 1)
      optionOffset := none }
  else set s

def assign (name value : Raw) : Act Unit := setVariable name value false

/-- Keeps something as it is until the function or the command is over. -/
def keepAs (kept : State → Kept) : Act Unit := modify fun s =>
  match s.saved with
  | frame :: outer => { s with saved := (kept s :: frame) :: outer }
  | [] => s

/-- Keeps what a variable is until the function or the command is over. -/
def keep (name : Raw) : Act Unit := keepAs fun s => .binding name (s.bindings.lookup name)

/-- Carries out an action; one that fails leaves its mark in the state. -/
def perform (a : Act Unit) (s : State) : State := (a.run.run s).2

end Act

end BareMetal.Shell

import BareMetal.Host.Program
import BareMetal.Shell.Evaluate

/-!
# Running programs

The programs that every system has, among them the shell, which runs scripts and other programs.
-/

namespace BareMetal.Shell

open Host

/-! ## Starting programs -/

namespace State

/-- How a script looks for programs. -/
def search (s : State) : Image.Search where
  programAt path := s.world.files.programAt (Path.join s.directory path)
  path := Raw.toText s.searchPath
  scripts := true

/-- The state in which a program starts. -/
def started (s : State) : State where
  world := s.world
  opened := s.opened
  streams := s.streams
  bindings := s.bindings.filter fun (_, b) => b.exported && b.value.isSome
  directory := s.directory
  mask := s.mask

end State

/-- The status of a script that cannot start a program. -/
def refusedStatus : OsError → Nat
  | .notFound | .notDirectory | .nameTooLong | .tooManyLinks => 127
  | _ => 126

/-- Starts a program from a script.  One that has no file is looked for by the script itself. -/
def start (run : Image → State → State) (l : Launch) (s : State) : State :=
  let name := l.arguments.headD ""
  let path := if l.standardPath then Builtin.standardPath else s.searchPath
  let refuse (e : OsError) (status : Nat) : State :=
    let s := { s.warn (name ++ ": " ++ openReason "not found" e) with status }
    if l.replacing then { s with flow := .ended } else s
  if !name.contains '/' && (Builtin.findFile? s path name).isNone then
    let reason := Builtin.missingReason s path name
    refuse reason (if l.replacing then refusedStatus reason else 127)
  else
    match { s.search with path := Raw.toText path }.find (l.arguments.map Raw.toText) with
    | .ok image =>
      let inner := run image s.started
      if l.replacing then
        { inner with traps := [], flow := if inner.isRunning then .ended else inner.flow }
      else
        let s := if l.standardPath then s else Builtin.locate s name
        s.afterProcess inner
    | .error e => refuse e (refusedStatus e)

/-! ## Printing and setting the scene -/

/-- The options of the program that prints its arguments: whether the line ends, and whether
escapes count; and the arguments. -/
def echoOptions (newline escapes : Bool) : List Raw → Bool × Bool × List Raw
  | [] => (newline, escapes, [])
  | text :: rest =>
    let letters := text.toList.drop 1
    if text.startsWith "-" ∧ letters ≠ [] ∧ letters.all "neE".toList.contains then
      let escapes := letters.foldl
        (fun on c => if c = 'e' then true else if c = 'E' then false else on) escapes
      echoOptions (newline && !letters.contains 'n') escapes rest
    else (newline, escapes, text :: rest)

/-- Prints arguments. -/
def echoProgram (name : Raw) (arguments : List Raw) (s : State) : State :=
  let (newline, escapes, texts) := echoOptions true false arguments
  let p : Printed := if escapes then Printed.ofTexts texts
    else { text := (Text.joinWith " " texts).toList }
  let cs := p.text ++ if newline && !p.finished then ['\n'] else []
  match s.write (Raw.bytes (String.ofList cs)) 1 with
  | .ok s => { s with status := 0 }
  | .error e => { s.complain (name ++ ": write error: " ++ e.text) with status := 1 }

/-- Refuses the option that an argument is. -/
def refuseOption (name argument : Raw) (status : Nat) (s : State) : State :=
  let option := if argument.startsWith "--" then "unrecognized option '" ++ argument ++ "'"
    else "invalid option -- '" ++ String.ofList ((argument.toList.drop 1).take 1) ++ "'"
  { s.complain (name ++ ": " ++ option ++ "\nTry '" ++ name ++ " --help' for more information.")
      with status }

/-- An argument that asks for an option. -/
def isOption (argument : Raw) : Bool := argument.startsWith "-" && argument ≠ "-"

/-- The file that a stream leads to. -/
def State.fileAt? (s : State) (stream : Nat) : Option Location :=
  match s.opened? stream with
  | some (_, { target := .file l, .. }) => some l
  | _ => none

/-- What is printed would be read again. -/
def printsItself (s : State) (path : Raw) : Bool :=
  let source := if path = "-" then s.fileAt? 0 else s.locate? path
  source.isSome && source = s.fileAt? 1

/-- Prints files, or what is to be read where none is named. -/
def catProgram (name : Raw) : List Raw → State → State
  | [], s => s
  | path :: rest, s =>
    let refuse (message : Raw) : State :=
      { s.complain (name ++ ": " ++ path ++ ": " ++ message) with status := 1 }
    let content := if path = "-" then s.readAll 0
      else (s.readFile path).map fun content => (content, s)
    match content with
    | .error e => catProgram name rest (refuse e.text)
    | .ok (content, read) =>
      if content.size ≠ 0 && printsItself s path then
        catProgram name rest (refuse "input file is output file")
      else match read.write content 1 with
      | .ok s => catProgram name rest s
      | .error e => catProgram name rest (refuse e.text)

/-- Runs a program with some more variables. -/
def envProgram (name : Raw) (run : Image → State → State) : List Raw → State → State
  | [], s => { s with status := 0 }
  | text :: rest, s =>
    if text = "-" || text = "-i" then envProgram name run rest { s with bindings := [] }
    else if isOption text then refuseOption name text 125 s
    else if text.contains '=' then
      let key := String.ofList (text.toList.takeWhile (· ≠ '='))
      envProgram name run rest
        (s.setBinding key { value := some (Raw.settingValue text), exported := true })
    else
      match s.search.find ((text :: rest).map Raw.toText) with
      | .ok image => run image s
      | .error e =>
        { s.complain (name ++ ": '" ++ text ++ "': " ++ e.text) with
          status := if e = .notFound then 127 else 126 }

/-! ## The shell -/

/-- What the shell is asked to do by its options. -/
structure ShellOptions where
  /-- The script is an argument. -/
  fromArgument : Bool := false
  names : List String := []

/-- Sets an option of the shell. -/
def ShellOptions.put (o : ShellOptions) (name : String) (value : Bool) : ShellOptions :=
  let others := o.names.filter (· ≠ name)
  { o with names := if value then name :: others else others }

/-- Reads the letters of an argument; those of named options take their names from the arguments
that follow. -/
def readLetters (value : Bool) : List Char → List Raw → ShellOptions →
    Except Raw (List Raw × ShellOptions)
  | [], rest, o => .ok (rest, o)
  | 'c' :: letters, rest, o => readLetters value letters rest { o with fromArgument := true }
  | 'l' :: letters, rest, o => readLetters value letters rest o
  | 'o' :: letters, rest, o =>
    match rest with
    | [] => readLetters value letters [] o
    | name :: rest =>
      if State.optionTable.any (·.1 = name) then readLetters value letters rest (o.put name value)
      else .error ("Illegal option -o " ++ name)
  | letter :: letters, rest, o =>
    match State.optionTable.find? (·.2 = some letter) with
    | some (name, _) => readLetters value letters rest (o.put name value)
    | none => .error ("Illegal option -" ++ String.singleton letter)

/-- Reads the options of the shell. -/
def readOptions : Nat → List Raw → ShellOptions → Except Raw (List Raw × ShellOptions)
  | 0, arguments, o => .ok (arguments, o)
  | _ + 1, [], o => .ok ([], o)
  | fuel + 1, first :: rest, o =>
    if first = "-" ∨ first = "--" then .ok (rest, o)
    else if first.startsWith "-" ∨ first.startsWith "+" then do
      let (rest, o) ← readLetters (first.startsWith "-") (first.toList.drop 1) rest o
      readOptions fuel rest o
    else .ok (first :: rest, o)

/-- The variables that the shell gives values from the start, where the environment does not. -/
def initialBindings : List (Raw × Raw) :=
  [("PATH", Builtin.standardPath), ("PPID", "1"), ("PS1", "# "), ("PS2", "> "), ("PS4", "+ ")]

/-- The state in which the shell begins to read. -/
def State.prepared (s : State) : State :=
  let s := { s with bindings := s.bindings.filter fun (name, _) => Raw.isName name }
  let s := initialBindings.foldl (fun s (name, value) =>
    if (s.bindings.lookup name).isSome then s else s.setBinding name { value := some value }) s
  let s := (s.setBinding "IFS" { value := some State.defaultSeparators }).setBinding "OPTIND"
    { value := some "1" }
  s.setBinding "PWD" { value := some s.place, exported := true }

/-- Runs what the shell is to run. -/
def runShell (r : Runner) (o : ShellOptions) (rest : List Raw) (s : State) : State :=
  let fromInput (parameters : List Raw) : State :=
    match s.readAll 0 with
    | .ok (content, s) => r.script (Raw.ofBytes content) false { s with parameters }
    | .error _ => { s with status := 0 }
  match o.fromArgument, rest with
  | true, [] => s.fail "-c requires an argument"
  | true, script :: rest =>
    r.script script false { s with name := rest.headD s.name, parameters := rest.drop 1 }
  | false, [] => fromInput []
  | false, path :: parameters =>
    if s.hasOption "stdin" then fromInput rest
    else match s.readFile path with
    | .ok content => r.script (Raw.ofBytes content) false { s with name := path, parameters }
    | .error .outOfMemory => { s with status := 0 }
    | .error e => s.fail ("cannot open " ++ path ++ ": " ++ openReason "No such file" e)

/-- Runs the shell. -/
def shellProgram (r : Runner) (arguments : List Raw) (s : State) : State :=
  let s := { s.prepared with name := arguments.headD "sh" }
  finish r <| match readOptions arguments.length (arguments.drop 1) {} with
    | .error message => s.fail message
    | .ok (rest, o) => runShell r o rest { s with options := o.names }

/-! ## All programs -/

/-- What can be run. -/
inductive Job where
  | command (c : Command) (tested : Bool)
  | script (text : Raw) (tested : Bool)
  | image (i : Image)

/-- The signal at the end of a program that goes too deep. -/
def depthSignal : Nat := 11

/-- Runs a command, a script or a program; they may run one another `fuel` deep. -/
def runJob : Nat → Job → State → State
  | 0, _, s => { s with flow := .killed depthSignal }
  | fuel + 1, job, s =>
    let run (i : Image) : State → State := runJob fuel (.image i)
    let r : Runner :=
      { command := fun c tested => runJob fuel (.command c tested)
        script := fun text tested => runJob fuel (.script text tested)
        program := start run }
    match job with
    | .command c tested => evaluate r c tested s
    | .script text tested => runScript r text tested s
    | .image i =>
      let all := i.arguments.map Raw.ofText
      let name := all.headD (Raw.ofText i.program)
      let arguments := all.drop 1
      match i.program with
      | "true" => { s with status := 0 }
      | "false" => { s with status := 1 }
      | "echo" => echoProgram name arguments s
      | "cat" =>
        match arguments.find? isOption with
        | some option => refuseOption name option 1 s
        | none =>
          catProgram name (if arguments = [] then ["-"] else arguments) { s with status := 0 }
      | "env" => envProgram name run arguments s
      | _ => shellProgram r all s

/-- How deep programs may run one another. -/
def maxDepth : Nat := 1000

/-- Runs a program. -/
def runImage (i : Image) : State → State := runJob maxDepth (.image i)

/-! ## Programs of a tool -/

namespace State

/-- A program as it is run for a tool, in the environment of the tool. -/
def ofWorld (w : World) : State where
  world := w
  opened := #[{ target := .device .null }, { target := .device (.stream .output) },
    { target := .device (.stream .errors) }]
  streams := [(0, 0), (1, 1), (2, 2)]
  bindings := w.environment.map fun (name, value) =>
    (Raw.ofText name, { value := some (Raw.ofText value), exported := true })

/-- The number of the buffer of a program whose output is caught. -/
def bufferNumber : Nat := 3

/-- The program with its output caught and its errors lost. -/
def catching (s : State) : State :=
  { s with
    opened := s.opened.push { target := .pipe #[] }
    streams := [(0, 0), (1, bufferNumber), (2, 0)] }

end State

end BareMetal.Shell

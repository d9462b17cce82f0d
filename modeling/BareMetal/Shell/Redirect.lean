import BareMetal.Shell.Expand

/-!
# Redirections

What the streams of a command lead to.  The words of all redirections are expanded before the first
of them is followed.
-/

namespace BareMetal.Shell

open Host

/-- Why a file cannot be opened or run, as the shell puts it. -/
def openReason (missing : String) : OsError → String
  | .notFound | .notDirectory => missing
  | e => e.text

namespace Redirect

/-- A redirection whose words have been expanded. -/
inductive Order where
  | file (stream : Nat) (mode : FileMode) (path : Raw)
  /-- To where another stream leads, or nowhere. -/
  | copy (stream : Nat) (source : Option Nat)
  | document (stream : Nat) (key : Nat)
  deriving DecidableEq, Repr

/-- The stream of an order. -/
def Order.stream : Order → Nat
  | file stream _ _ | copy stream _ | document stream _ => stream

/-- Expands the words of some redirections. -/
def orders (r : Runner) : List Redirection → Act (List Order)
  | [] => return []
  | .file stream mode path :: rest => do
    let path ← Expand.text r path
    return .file stream mode path :: (← orders r rest)
  | .document stream key :: rest => do
    return .document stream key :: (← orders r rest)
  | .copy stream source :: rest => do
    let source ← Expand.text r source
    let order : Order ← match source.toList with
      | ['-'] => pure (.copy stream none)
      | [c] =>
        match Numeral.ofDigits? 10 [c] with
        | some n => pure (.copy stream (some n))
        | none => malformed
      | _ => malformed
    return order :: (← orders r rest)
where
  malformed : Act Order := do
    modify fun s => s.failReading "Bad fd number"
    throw ()

/-- Opens a file for a stream. -/
def openFile (stream : Nat) (mode : FileMode) (path : Raw) : Act Unit := do
  let s ← get
  let refuse {α : Type} (verb missing : String) (e : OsError) : Act α :=
    Act.fail ("cannot " ++ verb ++ " " ++ path ++ ": " ++ openReason missing e)
  let device (o : Opened) : Act Unit := modify fun s => s.openFor stream o
  if mode = .read then
    match s.openPath .reading path with
    | .ok (.inl (.file l _ _)) => device { target := .file l, writable := false }
    | .ok (.inl (.device d)) => device { target := .device d }
    | .ok (.inr o) => device o
    | .error .isDirectory => device { target := .directory }
    | .error e => refuse "open" "No such file" e
  else
    let kept : Bool := match s.node? path with
      | some (.file _ _) => mode = .write && s.hasOption "noclobber"
      | _ => false
    if kept then Act.fail ("cannot create " ++ path ++ ": File exists")
    match s.openPath .creating path with
    | .ok (.inl (.file l content executable)) =>
      let emptied := mode = .write || mode = .replace
      let content := if emptied then #[] else content
      let files := s.world.files.put l (.file content executable)
      set { s with world := { s.world with files } }
      device { target := .file l, append := mode = .append, readable := mode = .update }
    | .ok (.inl (.device d)) => device { target := .device d }
    | .ok (.inr o) => device o
    | .error e => refuse "create" "Directory nonexistent" e

/-- Follows an order. -/
def follow (r : Runner) : Order → Act Unit
  | .file stream mode path => openFile stream mode path
  | .copy stream none => modify fun s => s.close stream
  | .copy stream (some source) => do
    if source ≠ stream then
      match (← get).streams.lookup source with
      | some number => modify fun s => s.lead stream number
      | none => Act.fail (Raw.ofInt source ++ ": Bad file descriptor")
  | .document stream key => do
    let text ← Expand.documentText r (((← get).documents.lookup key).getD [])
    modify fun s =>
      s.openFor stream { target := .pipe (Raw.bytes text), writable := false }

/-- Follows some orders in turn. -/
def followAll (r : Runner) : List Order → Act Unit
  | [] => return
  | o :: rest => do
    follow r o
    followAll r rest

/-- Follows some orders; one that cannot be followed gives the status of an error. -/
def tryAll (r : Runner) (os : List Order) (s : State) : Bool × State :=
  match (followAll r os).run.run s with
  | (.ok (), s) => (true, s)
  | (.error (), s) => (false, { s with flow := .running, status := 2 })

end Redirect

end BareMetal.Shell

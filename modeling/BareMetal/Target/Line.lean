import BareMetal.Log
import BareMetal.Target.Error

/-!
# Lines to a target

A line is a byte stream to a far end: what has yet to arrive, what has been written, and what was
shown or logged on the way.  A line may take a few bytes at a time or fail after some; the far end
may answer each terminated command that it receives, and hold the writer up.  `Talk` is the type of
a conversation, which keeps the line when it fails.
-/

namespace BareMetal.Target

/-- Something that the user or the log gets to see. -/
inductive Event where
  /-- Text for standard output. -/
  | console (text : String)
  | log (r : Log.Record)
  /-- A step of a longer transfer is done. -/
  | progress
  deriving DecidableEq, Repr

/-- How a read ends when nothing more arrives. -/
inductive Idle where
  /-- The far end has hung up: the read gets no bytes. -/
  | closed
  /-- The far end is silent: the read times out. -/
  | silent
  deriving DecidableEq, Repr

/-- The error of a read that has waited in vain. -/
def timeout : IoError := { kind := .timedOut, message := "Operation timed out" }

/-- A far end that answers whatever ends with its terminator. -/
structure Peer where
  terminator : UInt8
  replies : List Bytes
  deriving DecidableEq, Repr

/-- A byte stream to a far end. -/
structure Line where
  incoming : List Arrival := []
  idle : Idle := .closed
  peer : Option Peer := none
  /-- The bytes that one write takes at most. -/
  maxWrite : Option Nat := none
  /-- The number of bytes taken in all, and the error of every write after them. -/
  writeError : Option (Nat × IoError) := none
  /-- The far end can hold the writer up by what it sends. -/
  pausable : Bool := false
  /-- The far end holds the writer up. -/
  paused : Bool := false
  written : Bytes := #[]
  flushes : Nat := 0
  events : Array Event := #[]
  deriving DecidableEq, Repr

namespace Line

def emit (l : Line) (e : Event) : Line := { l with events := l.events.push e }

def emitAll (l : Line) (es : List Event) : Line := { l with events := l.events ++ es.toArray }

/-- The number of bytes that `l` takes of `n` more, and the error that stops it short of them. -/
def accepts (l : Line) (n : Nat) : Nat × Option IoError :=
  let left := if l.paused then some (0, timeout)
    else l.writeError.map fun (after, e) => (after - l.written.size, e)
  match left with
  | some (0, e) => if n = 0 then (0, none) else (0, some e)
  | _ =>
    if l.maxWrite = some 0 ∧ n ≠ 0 then
      (0, some { kind := .writeZero, message := "failed to write whole buffer" })
    else match left with
      | some (room, e) => if room < n then (room, some e) else (n, none)
      | none => (n, none)

/-- The answers of a far end to some bytes, and the far end after them. -/
def Peer.answer (p : Peer) (bytes : Bytes) : List Bytes × Peer :=
  let commands := bytes.count p.terminator
  (p.replies.take commands, { p with replies := p.replies.drop commands })

/-- Lets the writer go on. -/
def resume : UInt8 := 0x11

/-- Holds the writer up. -/
def pause : UInt8 := 0x13

def isControl (b : UInt8) : Bool := b == resume || b == pause

/-- The writer is held up after some bytes have arrived. -/
def pausedAfter (paused : Bool) (bytes : Bytes) : Bool :=
  ((bytes.filter isControl).back?.map (· == pause)).getD paused

/-- The line after answers have arrived.  What holds the writer up is not read. -/
def receive (l : Line) (answers : List Bytes) : Line :=
  let data := if l.pausable then answers.map (·.filter (!isControl ·)) else answers
  { l with
    incoming := l.incoming ++ (data.filter (·.size ≠ 0)).map .data
    paused := l.pausable && answers.foldl pausedAfter l.paused }

/-- The line after it has taken some bytes. -/
def deliver (l : Line) (bytes : Bytes) : Line :=
  let l := { l with written := l.written ++ bytes }
  match l.peer with
  | none => l
  | some p =>
    let (answers, p) := Peer.answer p bytes
    { l with peer := some p }.receive answers

end Line

/-- A conversation over a line. -/
abbrev Talk (α : Type) := ExceptT Error (StateM Line) α

namespace Talk

/-- Writes all of some bytes, or as many as the line takes. -/
def write (bytes : Bytes) : Talk Unit := fun l =>
  match l.accepts bytes.size with
  | (_, none) => (.ok (), l.deliver bytes)
  | (n, some e) => (.error (.io e), l.deliver (bytes.extract 0 n))

def flush : Talk Unit := fun l => (.ok (), { l with flushes := l.flushes + 1 })

def emit (e : Event) : Talk Unit := fun l => (.ok (), l.emit e)

/-- Writes some bytes and sees to it that they leave. -/
def writeLine (bytes terminator : Bytes) : Talk Unit := do
  write bytes
  write terminator
  flush

end Talk

end BareMetal.Target

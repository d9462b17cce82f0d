import BareMetal.Shell.State

/-!
# Processes and signals

What runs commands, scripts and programs is handed down to those who need it, since a script may run
others and even itself.  A process does what is to be done at its end, whatever ends it.
-/

namespace BareMetal.Shell

open Host

/-! ## Signals -/

namespace Signal

/-- The signals in the order of their numbers, which begin with one, with what is said of programs
that they end. -/
def table : List (String × String) :=
  [("HUP", "Hangup"), ("INT", "Interrupt"), ("QUIT", "Quit"), ("ILL", "Illegal instruction"),
   ("TRAP", "Trace/breakpoint trap"), ("ABRT", "Aborted"), ("BUS", "Bus error"),
   ("FPE", "Floating point exception"), ("KILL", "Killed"), ("USR1", "User defined signal 1"),
   ("SEGV", "Segmentation fault"), ("USR2", "User defined signal 2"), ("PIPE", "Broken pipe"),
   ("ALRM", "Alarm clock"), ("TERM", "Terminated"), ("STKFLT", "Stack fault"),
   ("CHLD", "Child exited"), ("CONT", "Continued"), ("STOP", "Stopped (signal)"),
   ("TSTP", "Stopped"), ("TTIN", "Stopped (tty input)"), ("TTOU", "Stopped (tty output)"),
   ("URG", "Urgent I/O condition"), ("XCPU", "CPU time limit exceeded"),
   ("XFSZ", "File size limit exceeded"), ("VTALRM", "Virtual timer expired"),
   ("PROF", "Profiling timer expired"), ("WINCH", "Window changed"), ("IO", "I/O possible"),
   ("PWR", "Power failure"), ("SYS", "Bad system call")]

/-- The signals at most, counted from zero. -/
def count : Nat := 65

/-- The signals that have no name but their number. -/
def nameless : List Nat := [16, 32, 33]

/-- The first and the last of the signals that are counted from both ends. -/
def firstCounted : Nat := 34
def lastCounted : Nat := 64

/-- The name of a signal for scripts; the end of a script has one, too. -/
def name? (signal : Nat) : Option String :=
  if signal = 0 then some "EXIT"
  else if nameless.contains signal then some (Numeral.decimal signal)
  else if signal < firstCounted then (table[signal - 1]?).map (·.1)
  else if signal = firstCounted then some "RTMIN"
  else if signal = lastCounted then some "RTMAX"
  else if signal < 50 then some ("RTMIN+" ++ Numeral.decimal (signal - firstCounted))
  else if signal < lastCounted then some ("RTMAX-" ++ Numeral.decimal (lastCounted - signal))
  else none

/-- The signal of a number or a name. -/
def read? (text : Raw) : Option Nat :=
  match if text = "" then none else Numeral.ofDigits? 10 text.toList with
  | some n => if n < count then some n else none
  | none =>
    let upper := String.ofList (text.toList.map Char.toUpper)
    (List.range count).find? fun n => name? n = some upper

/-- The signals that do nothing to a program that does not ask for them. -/
def harmless : List Nat := [17, 18, 23, 28]

/-- The signals that end a program without anything being said. -/
def silent : List Nat := [2, 13]

end Signal

/-! ## Runners -/

/-- A program that a script starts. -/
structure Launch where
  /-- What the program is called with, its name first. -/
  arguments : List Raw
  /-- The program takes the place of the script. -/
  replacing : Bool := false
  /-- The program is looked for where the programs of the system are. -/
  standardPath : Bool := false

/-- What runs commands and scripts in the state of a script, and starts programs.  A script without
commands has the status of success.  That the success of something is only being tested is said to
those who could end the script. -/
structure Runner where
  command : Command → Bool → State → State
  script : Raw → Bool → State → State
  program : Launch → State → State

/-- What is done at the end of a process. -/
def finish (r : Runner) (s : State) : State :=
  match s.flow with
  | .killed _ => s
  | _ =>
    let s := match s.traps.lookup 0 with
      | some action =>
        let inner := r.script action false
          { s with
            traps := s.traps.filter (·.1 ≠ 0)
            flow := .running
            keptStatus := some s.status }
        match inner.flow with
        | .ended | .failed | .killed _ => inner
        | _ => { inner with status := s.status }
      | none => s
    match s.flow with
    | .killed _ => s
    | _ => { s with status := s.status % 256, flow := .ended }

/-- A signal comes to a script. -/
def State.receive (s : State) (signal : Nat) : State :=
  match s.traps.lookup signal with
  | some "" => s
  | some _ =>
    if signal = 9 then { s with flow := .killed signal }
    else { s with pending := s.pending ++ [signal] }
  | none =>
    if signal = 0 || Signal.harmless.contains signal then s
    else { s with flow := .killed signal }

/-- Sends a signal to the outermost process of a script. -/
def State.send (s : State) (signal : Nat) : State :=
  if s.forks = 0 then s.receive signal else { s with sent := s.sent ++ [signal] }

/-- Says by which signal a program has been ended. -/
def announce (signal : Nat) (s : State) : State :=
  match Signal.table[signal - 1]? with
  | some (_, text) => if Signal.silent.contains signal then s else s.complain text
  | none => s

/-- The state after another process, whose status it gets. -/
def State.afterProcess (s inner : State) : State :=
  let s := s.after inner
  let s := match inner.flow with
    | .killed signal => { announce signal s with status := inner.endStatus }
    | _ => { s with status := inner.status }
  if s.forks = 0 then s.sent.foldl State.receive { s with sent := [] } else s

/-- Does something in a process of its own. -/
def inProcess (r : Runner) (act : State → State) (s : State) : State :=
  s.afterProcess (finish r (act s.forked))

/-- Does what is to be done at the signals that have come. -/
def handleSignals (r : Runner) (s : State) : State :=
  s.pending.foldl (fun s signal =>
    match s.traps.lookup signal with
    | some action =>
      if !s.isRunning then s
      else
        let status := s.keptStatus.getD s.status
        let inner := r.script action false { s with keptStatus := some status }
        let inner := { inner with keptStatus := s.keptStatus }
        match inner.flow with
        | .running => { inner with status }
        | _ => inner
    | none => s) { s with pending := [] }

end BareMetal.Shell

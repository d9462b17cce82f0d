import BareMetal.Shell.Call

/-!
# Carrying out scripts

The commands of a script are carried out one after the other.  A command that fails ends a script
that has asked for that, unless its success is only being tested.
-/

namespace BareMetal.Shell

open Host

/-! ## The flow of a script -/

/-- The script ends if a command has failed whose success is not just being tested. -/
def State.checked (tested : Bool) (s : State) : State :=
  let goesOn := s.flow = .running || s.flow = .returning
  if s.hasOption "errexit" && !tested && goesOn && s.status ≠ 0 then { s with flow := .ended }
  else s

/-- The rounds of a loop at most. -/
def maxRounds : Nat := 100000

/-- What a round of a loop means for the loop: whether it goes on, and the state then. -/
def afterRound (s : State) : Bool × State :=
  match s.flow with
  | .running => (true, s)
  | .leaving n => (false, { s with flow := if n ≤ 1 then .running else .leaving (n - 1) })
  | .skipping n =>
    if n ≤ 1 then (true, { s with flow := .running })
    else (false, { s with flow := .skipping (n - 1) })
  | _ => (false, s)

/-- Goes through a loop; `status` is that of the last round. -/
def repeatWhile (wanted : Bool) (condition body : State → State) : Nat → Nat → State → State
  | 0, status, s => { s with status }
  | fuel + 1, status, s =>
    let tried := condition s
    if !tried.isRunning then
      let (goesOn, s) := afterRound tried
      if goesOn then repeatWhile wanted condition body fuel status s
      else if s.isRunning then { s with status }
      else s
    else if (tried.status = 0) = wanted then
      let (goesOn, s) := afterRound (body tried)
      if goesOn then repeatWhile wanted condition body fuel s.status s else s
    else { tried with status }

/-- Goes through a loop over some texts. -/
def repeatEach (name : Raw) (body : State → State) : List Raw → State → State
  | [], s => s
  | text :: rest, s =>
    let s := Act.perform (Act.assign name text) s
    if !s.isRunning then s
    else
      let (goesOn, s) := afterRound (body s)
      if goesOn then repeatEach name body rest s else s

/-- Goes through a loop, which commands in it can leave. -/
def inLoop (act : State → State) (s : State) : State :=
  { act { s with loops := s.loops + 1 } with loops := s.loops }

/-! ## Redirections -/

/-- Does something with redirections. -/
def withRedirections (r : Runner) (redirections : List Redirection) (act : State → State)
    (s : State) : State :=
  match (Redirect.orders r redirections).run.run s with
  | (.error (), s) => s
  | (.ok orders, s) =>
    let after := match Redirect.tryAll r orders s with
      | (true, inner) => act inner
      | (false, inner) => inner
    { after with streams := s.streams }

/-- Does something with redirections in a process of its own. -/
def inProcessWith (r : Runner) (redirections : List Redirection) (act : State → State)
    (s : State) : State :=
  match (Redirect.orders r redirections).run.run s with
  | (.error (), s) => s
  | (.ok orders, s) =>
    inProcess r (fun s =>
      match Redirect.tryAll r orders s with
      | (true, inner) => act inner
      | (false, inner) => inner) s

/-- A stream of a process, if it leads elsewhere. -/
def State.leadTo (stream : Nat) (number : Option Nat) (s : State) : State :=
  match number with
  | some number => s.lead stream number
  | none => s

/-- The number of the next process that nobody waits for. -/
def nextProcess (s : State) : Nat := State.processId + 1 + s.jobs.length

/-- Carries out what nobody waits for at once. -/
def inBackground (r : Runner) (redirections : List Redirection) (act : State → State)
    (s : State) : State :=
  let after := inProcessWith r redirections
    (fun inner => act (inner.openFor 0 { target := .device .null })) s
  if after.isRunning then
    { after with status := 0, jobs := (nextProcess s, after.status) :: s.jobs }
  else after

/-! ## Commands -/

/-- A text has the form of one of some patterns. -/
def fitsAny (r : Runner) (text : Raw) : List Word → Act Bool
  | [] => return false
  | w :: rest => do
    if Glob.fits (← Expand.pattern r w) text.toList then return true else fitsAny r text rest

def Command.isNothing : Command → Bool
  | .nothing => true
  | _ => false

/-- Does what is to be done at signals behind a command, and ends a script that asks for it. -/
def settle (r : Runner) (tested : Bool) (s : State) : State :=
  let s := if s.pending = [] then s else handleSignals r s
  s.checked tested

mutual

/-- Carries out a command; `tested` means that only its success is of interest. -/
def evaluate (r : Runner) : Command → Bool → State → State
  | .nothing, _, s => s
  | .simple line settings words redirections, tested, s =>
    settle r tested (SimpleCommand.run r tested settings words redirections { s with line })
  | .sequence c d, tested, s =>
    let s := evaluate r c tested s
    if s.isRunning then evaluate r d tested s else s
  | .conjunction c d, tested, s =>
    let s := evaluate r c true s
    if s.isRunning && s.status = 0 then evaluate r d tested s else s
  | .disjunction c d, tested, s =>
    let s := evaluate r c true s
    if s.isRunning && s.status ≠ 0 then evaluate r d tested s else s
  | .negation c, _, s =>
    let s := evaluate r c true s
    match s.flow with
    | .failed | .ended | .killed _ => s
    | _ => { s with status := if s.status = 0 then 1 else 0 }
  | .pipe stages, tested, s => settle r tested (evaluateStages r stages none tested s)
  | .choice condition yes no, tested, s =>
    let s := evaluate r condition true s
    if !s.isRunning then s
    else if s.status = 0 then evaluate r yes tested s
    else if no.isNothing then { s with status := 0 }
    else evaluate r no tested s
  | .loop wanted condition body, tested, s =>
    inLoop (repeatWhile wanted (evaluate r condition true) (evaluate r body tested) maxRounds 0) s
  | .each line name words body, tested, s =>
    match (words.flatMapM (Expand.texts r)).run.run { s with line } with
    | (.error (), s) => s
    | (.ok texts, s) =>
      inLoop (repeatEach name (evaluate r body tested) texts) { s with status := 0 }
  | .select line word cases, tested, s =>
    match (Expand.text r word).run.run { s with line } with
    | (.error (), s) => s
    | (.ok text, s) => evaluateCases r text cases tested s
  | .redirected line c redirections, tested, s =>
    withRedirections r redirections (evaluate r c tested) { s with line }
  | .subshell line c redirections, tested, s =>
    settle r tested (inProcessWith r redirections (evaluate r c tested) { s with line })
  | .background line c redirections, _, s =>
    inBackground r redirections (evaluate r c false) { s with line }
  | .define name body, _, s =>
    let others := s.functions.filter (·.1 ≠ name)
    { s with functions := (name, body) :: others, status := 0 }

/-- Carries out commands of which each reads what the one before it prints. -/
def evaluateStages (r : Runner) : List Command → Option Nat → Bool → State → State
  | [], _, _, s => s
  | c :: rest, input, tested, s =>
    if rest.isEmpty then inProcess r (fun s => evaluate r c tested (s.leadTo 0 input)) s
    else
      let (number, s) := s.openTarget { target := .pipe #[] }
      let s := inProcess r (fun s => evaluate r c tested ((s.leadTo 0 input).lead 1 number)) s
      evaluateStages r rest (some number) tested s

/-- Carries out the first case whose patterns a text has the form of. -/
def evaluateCases (r : Runner) (text : Raw) : Cases → Bool → State → State
  | .none, _, s => { s with status := 0 }
  | .one patterns body rest, tested, s =>
    match (fitsAny r text patterns).run.run s with
    | (.error (), s) => s
    | (.ok false, s) => evaluateCases r text rest tested s
    | (.ok true, s) =>
      if body.isNothing then { s with status := 0 } else evaluate r body tested s

end

/-! ## Scripts -/

/-- The lines of a script that have been read, as far as they are not known yet. -/
def newText (before after : List Char) : List Char :=
  let taken := before.take (before.length - after.length)
  if taken.getLast? = some '\n' || taken = [] then taken
  else taken ++ (after.takeWhile (· ≠ '\n')) ++ ['\n']

/-- Carries out the commands of a script line by line; `status` is given if there are none. -/
def runLines (r : Runner) (tested : Bool) : Nat → Option Nat → Source → State → State
  | 0, _, _, s => s
  | fuel + 1, status, source, s =>
    let source := { source with aliases := s.aliases, nextKey := s.nextKey, documents := [] }
    match Grammar.readLine.run source with
    | .error e => { s with readLine := e.line, line := e.line }.fail e.message
    | .ok (.finished, _) => { s with status := status.getD s.status }
    | .ok (.command c, after) =>
      let s := if s.hasOption "verbose" then
          ((s.write (Raw.bytes (String.ofList (newText source.rest after.rest))) 2).toOption).getD s
        else s
      let s := { s with
        documents := after.documents ++ s.documents
        nextKey := after.nextKey
        readLine := after.line }
      let s := if s.hasOption "noexec" then s else evaluate r c tested s
      let status := if c.isNothing then status else none
      if s.isRunning then runLines r tested fuel status after s else s

/-- Carries out a script, whose status is that of its last command. -/
def runScript (r : Runner) (text : Raw) (tested : Bool) (s : State) : State :=
  let cs := text.toList.filter (· ≠ Atom.gap)
  runLines r tested (cs.length + 2) (some 0) (Source.ofText cs s.aliases s.nextKey) s

end BareMetal.Shell

import BareMetal.Shell.Token

/-!
# Reading commands

The commands of a script are read one at a time, since what one does may change how the next is
read.  Commands stand inside one another, as deep as `maxNesting`.
-/

namespace BareMetal.Shell

namespace Grammar

open TokenReader

/-- What is looked for at the start of a command. -/
def atCommand : Check := { newlines := true, keywords := true, aliases := true }

/-- Reads the token that has to come. -/
def demand (n : Nested) (t : Token) : Reader Unit := do
  if (← next n) ≠ t then Reader.unexpected (some t)

/-! ## Simple commands -/

/-- The commands whose names no function can have. -/
def specialNames : List Raw :=
  [".", ":", "break", "continue", "eval", "exec", "exit", "export", "local", "readonly", "return",
   "set", "shift", "times", "trap", "unset"]

/-- A simple command as far as it has been read; everything has the latest first. -/
structure SimpleDraft where
  settings : List Word := []
  words : List Word := []
  redirections : List Redirection := []

/-- A function that begins with its name and a parenthesis. -/
def readFunction (n : Nested) (name : Word) : Reader Command := do
  demand n (.operator ")")
  let text := String.ofList ((Word.plainText? name).getD [])
  if !Raw.isName text || specialNames.contains text then Reader.fail "Bad function name"
  Reader.setCheck atCommand
  return .define text (← n.command)

/-- Reads on in a simple command. -/
def readSimple (n : Nested) (line : Nat) : Nat → SimpleDraft → Reader Command
  | 0, _ => Reader.fail "Command too long"
  | fuel + 1, d => do
    match ← nextFor n { aliases := d.words.isEmpty } with
    | .word =>
      let w := (← get).word
      readSimple n line fuel
        (if d.words.isEmpty && Word.isSetting w then { d with settings := w :: d.settings }
          else { d with words := w :: d.words })
    | .redirection =>
      let r ← readTarget n
      readSimple n line fuel { d with redirections := r :: d.redirections }
    | t =>
      match t, d.words, d.settings, d.redirections with
      | .operator "(", [name], [], [] => readFunction n name
      | _, _, _, _ =>
        Reader.pushBack
        return .simple line d.settings.reverse d.words.reverse d.redirections.reverse

/-! ## Compound commands -/

/-- The commands behind `if` or `elif`. -/
def readChoice (n : Nested) : Nat → Reader Command
  | 0 => Reader.fail "Command too long"
  | fuel + 1 => do
    let condition ← n.list false
    demand n (.keyword "then")
    let yes ← n.list false
    match ← next n with
    | .keyword "elif" => return .choice condition yes (← readChoice n fuel)
    | .keyword "else" => return .choice condition yes (← n.list false)
    | _ =>
      Reader.pushBack
      return .choice condition yes .nothing

/-- The words of a loop. -/
def readWords (n : Nested) : Nat → List Word → Reader (List Word)
  | 0, _ => Reader.fail "Command too long"
  | fuel + 1, words => do
    if (← next n) = .word then readWords n fuel ((← get).word :: words)
    else return words.reverse

def readEach (n : Nested) (line : Nat) : Reader Command := do
  let t ← next n
  let s ← get
  let name := (Word.plainText? s.word).map String.ofList
  if t ≠ .word || s.quoted || !name.any Raw.isName then Reader.fail "Bad for loop variable"
  let words ← do
    if (← nextFor n atCommand) = .keyword "in" then
      let words ← readWords n s.limit []
      let last := (← get).last
      if last ≠ .newline && last ≠ .operator ";" then Reader.unexpected none
      pure words
    else
      if (← get).last ≠ .operator ";" then Reader.pushBack
      pure [Word.parameters]
  if (← nextFor n atCommand) ≠ .keyword "do" then Reader.unexpected (some (.keyword "do"))
  return .each line (name.getD "") words (← n.list false)

/-- The patterns of a case, whose first one has been read. -/
def readPatterns (n : Nested) : Nat → List Word → Reader (List Word)
  | 0, _ => Reader.fail "Command too long"
  | fuel + 1, patterns => do
    let patterns := (← get).word :: patterns
    if (← next n) = .operator "|" then
      let _ ← next n
      readPatterns n fuel patterns
    else return patterns.reverse

/-- The cases of a choice by patterns. -/
def readCases (n : Nested) : Nat → Reader Cases
  | 0 => Reader.fail "Command too long"
  | fuel + 1 => do
    let t ← nextFor n { newlines := true, keywords := true }
    if t = .keyword "esac" then return .none
    if t = .operator "(" then
      let _ ← next n
    let patterns ← readPatterns n (← get).limit []
    if (← get).last ≠ .operator ")" then Reader.unexpected (some (.operator ")"))
    let body ← n.list true
    match ← nextFor n { newlines := true, keywords := true } with
    | .keyword "esac" => return .one patterns body .none
    | .operator ";;" => return .one patterns body (← readCases n fuel)
    | _ => Reader.unexpected (some (.operator ";;"))

def readSelect (n : Nested) (line : Nat) : Reader Command := do
  demand n .word
  let w := (← get).word
  if (← nextFor n atCommand) ≠ .keyword "in" then Reader.unexpected (some (.keyword "in"))
  return .select line w (← readCases n (← get).limit)

/-- The redirections behind a compound command. -/
def readRedirections (n : Nested) : Nat → List Redirection → Reader (List Redirection)
  | 0, _ => Reader.fail "Command too long"
  | fuel + 1, taken => do
    if (← next n) = .redirection then readRedirections n fuel ((← readTarget n) :: taken)
    else
      Reader.pushBack
      return taken.reverse

/-- A compound command with its redirections. -/
def withRedirections (n : Nested) (line : Nat) (c : Command) : Reader Command := do
  Reader.setCheck { keywords := true, aliases := true }
  match ← readRedirections n (← get).limit [], c with
  | [], c => return c
  | rs, .subshell line c _ => return .subshell line c rs
  | rs, c => return .redirected line c rs

/-- A command. -/
def readCommand (n : Nested) : Reader Command := do
  let line := (← get).line
  match ← next n with
  | .keyword "if" =>
    let c ← readChoice n (← get).limit
    demand n (.keyword "fi")
    withRedirections n line c
  | .keyword "while" | .keyword "until" =>
    let wanted : Bool := (← get).last = .keyword "while"
    let condition ← n.list false
    demand n (.keyword "do")
    let body ← n.list false
    demand n (.keyword "done")
    withRedirections n line (.loop wanted condition body)
  | .keyword "for" =>
    let c ← readEach n line
    demand n (.keyword "done")
    withRedirections n line c
  | .keyword "case" => withRedirections n line (← readSelect n line)
  | .operator "(" =>
    let c ← n.list false
    demand n (.operator ")")
    withRedirections n line (.subshell line c [])
  | .keyword "\x7b" =>
    let c ← n.list false
    demand n (.keyword "\x7d")
    withRedirections n line c
  | .word | .redirection =>
    Reader.pushBack
    readSimple n (← get).line (← get).limit {}
  | _ => Reader.unexpected none

/-! ## Lists -/

/-- The commands that read what one another prints; the first has been read. -/
def readStages (n : Nested) : Nat → List Command → Reader (List Command)
  | 0, _ => Reader.fail "Command too long"
  | fuel + 1, stages => do
    if (← next n) = .operator "|" then
      Reader.setCheck atCommand
      readStages n fuel ((← readCommand n) :: stages)
    else
      Reader.pushBack
      return stages.reverse

def readPipe (n : Nested) : Reader Command := do
  let negated := (← next n) = .keyword "!"
  if negated then Reader.setCheck { keywords := true, aliases := true } else Reader.pushBack
  let c ← readCommand n
  let c ← match ← readStages n (← get).limit [c] with
    | [c] => pure c
    | stages => pure (.pipe stages)
  return if negated then .negation c else c

/-- What follows a command that another one may depend on. -/
def readDependent (n : Nested) : Nat → Command → Reader Command
  | 0, _ => Reader.fail "Command too long"
  | fuel + 1, c => do
    match ← next n with
    | .operator "&&" =>
      Reader.setCheck atCommand
      readDependent n fuel (.conjunction c (← readPipe n))
    | .operator "||" =>
      Reader.setCheck atCommand
      readDependent n fuel (.disjunction c (← readPipe n))
    | _ =>
      Reader.pushBack
      return c

/-- A command that nobody waits for. -/
def inBackground (line : Nat) : Command → Command
  | .redirected line c rs => .background line c rs
  | c => .background line c []

def behind (c? : Option Command) (d : Command) : Command :=
  match c? with
  | some c => .sequence c d
  | none => d

/-- What has been read of a script. -/
inductive Reading where
  | command (c : Command)
  /-- There is no more. -/
  | finished

/-- Reads on in a list.  One that is `outermost` ends with its line, and one that is not with a
token that closes it, which has to come behind a command unless there may be none. -/
def readList (n : Nested) (outermost : Bool) :
    Nat → Bool → Option Command → Reader Reading
  | 0, _, _ => Reader.fail "Script too long"
  | fuel + 1, mayEnd, before => do
    let check : Check := { newlines := !outermost, keywords := true, aliases := true }
    let t ← nextFor n check
    if t = .newline then
      readDocuments n
      return .command (before.getD .nothing)
    else if t = .ending then
      readDocuments n
      Reader.pushBack
      return match outermost, before with
        | true, none => .finished
        | _, _ => .command (before.getD .nothing)
    else
      Reader.pushBack
      if mayEnd && t.closes then return .command (before.getD .nothing)
      let line := (← get).line
      let c ← readDependent n (← get).limit (← readPipe n)
      match ← next n with
      | .operator "&" =>
        readList n outermost fuel (!outermost) (behind before (inBackground line c))
      | .operator ";" => readList n outermost fuel (!outermost) (behind before c)
      | .newline =>
        Reader.pushBack
        readList n outermost fuel (!outermost) (behind before c)
      | .ending =>
        readDocuments n
        Reader.pushBack
        return .command (behind before c)
      | _ =>
        if outermost then Reader.unexpected none
        Reader.pushBack
        return .command (behind before c)

/-- A list inside another command. -/
def readInner (n : Nested) (mayBeEmpty : Bool) : Reader Command := do
  match ← readList n false (← get).limit mayBeEmpty none with
  | .command c => return c
  | .finished => return .nothing

/-- How commands are read that may have others in them, `depth` deep. -/
def nested : Nat → Nested
  | 0 =>
    { list := fun _ => Reader.fail "Script too deep"
      command := Reader.fail "Script too deep"
      inParentheses := Reader.fail "Script too deep" }
  | depth + 1 =>
    let n := nested depth
    { list := readInner n
      command := readCommand n
      inParentheses := do
        let c ← readInner n true
        demand n (.operator ")")
        emptyDocuments
        return c }

/-- How deep commands may stand inside one another. -/
def maxNesting : Nat := 200

/-- Reads the commands of a line, and of those that belong to it. -/
def readLine : Reader Reading := do
  let n := nested maxNesting
  modify fun s => { s with check := {}, again := false, pending := [] }
  readList n true (← get).limit false none

/-- Reads a text in which only parameters have a meaning. -/
def readPrompt : Reader Word := do
  return (← WordReader.read (nested maxNesting) (.document none false) .double).1

end Grammar

end BareMetal.Shell

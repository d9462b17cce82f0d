import BareMetal.Shell.Syntax
import BareMetal.Text.Numeral

/-!
# The source of a script

What a script is read from, one character after the other, and what is known of it on the way.
Aliases put their texts in front of what is still to be read.
-/

namespace BareMetal.Shell

/-! ## Tokens -/

/-- What a script consists of where it is no blank. -/
inductive Token where
  /-- The end of the script. -/
  | ending
  | newline
  | operator (text : String)
  | redirection
  | word
  | keyword (text : String)
  deriving DecidableEq, Repr

namespace Token

/-- The name of a token in messages. -/
def name : Token → String
  | ending => "end of file"
  | newline => "newline"
  | operator text => "\"" ++ text ++ "\""
  | redirection => "redirection"
  | word => "word"
  | keyword text => "\"" ++ text ++ "\""

/-- The words that have a meaning at the start of a command. -/
def keywords : List String :=
  ["!", "case", "do", "done", "elif", "else", "esac", "fi", "for", "if", "in", "then", "until",
   "while", "\x7b", "\x7d"]

/-- A token that can only stand behind a list of commands. -/
def closes : Token → Bool
  | ending => true
  | operator text => text == ")" || text == ";;"
  | keyword text =>
    ["do", "done", "elif", "else", "esac", "fi", "then", "\x7d"].contains text
  | _ => false

end Token

/-! ## Sources -/

/-- Why a text is no script, and the line that shows it. -/
structure Fault where
  message : String
  line : Nat
  deriving DecidableEq, Repr

/-- What is looked for in the next token. -/
structure Check where
  /-- Empty lines before it are passed over. -/
  newlines : Bool := false
  keywords : Bool := false
  aliases : Bool := false
  /-- It is the mark at the end of a document, in which parameters have no meaning. -/
  delimiter : Bool := false
  deriving DecidableEq, Repr

/-- The text of an alias as far as it is still to be read. -/
structure Stratum where
  /-- The names that stay words until the text has been read. -/
  names : List Raw
  text : List Char
  /-- The text ends with a blank, behind which a word may be an alias, too. -/
  blank : Bool
  deriving DecidableEq, Repr

/-- A document that begins with the next line. -/
structure PendingDocument where
  key : Nat
  delimiter : List Char
  /-- Parameters have no meaning in it. -/
  literal : Bool
  /-- Tabulators at the start of lines do not count. -/
  stripped : Bool

structure Source where
  rest : List Char
  strata : List Stratum := []
  /-- The names of the text that has been read just now, which stay words for this once. -/
  finished : List Raw := []
  line : Nat := 1
  /-- The number of steps that reading may take. -/
  limit : Nat
  aliases : List (Raw × Raw) := []
  check : Check := {}
  /-- The last token; it is read once more if `again` is set. -/
  last : Token := .newline
  again : Bool := false
  /-- The last word, and whether a part of it was quoted. -/
  word : Word := []
  quoted : Bool := false
  /-- The last redirection, without what it leads to. -/
  redirection : Redirection := .document 0 0
  pending : List PendingDocument := []
  /-- The document of the last redirection, if it has one. -/
  document : Option PendingDocument := none
  /-- The documents that have been read. -/
  documents : List (Nat × Word) := []
  nextKey : Nat := 0

/-- A step of reading. -/
abbrev Reader (α : Type) := StateT Source (Except Fault) α

namespace Source

def ofText (cs : List Char) (aliases : List (Raw × Raw)) (nextKey : Nat) : Source where
  rest := cs
  limit := 4096 + cs.length
  aliases := aliases
  nextKey := nextKey

/-- Leaves the aliases that have been read to their ends. -/
def settle (s : Source) : Source :=
  let ended := s.strata.takeWhile (·.text = [])
  { s with
    strata := s.strata.drop ended.length
    finished := s.finished ++ ended.flatMap (·.names)
    check := { s.check with aliases := s.check.aliases || ended.any (·.blank) } }

/-- Whether a name is the alias that is being read, so that it is a word there. -/
def isRead (s : Source) (name : Raw) : Bool :=
  s.finished.contains name || s.strata.any (·.names.contains name)

/-- Puts the text of an alias in front of what is still to be read. -/
def enter (s : Source) (name text : Raw) : Source :=
  if text = "" then s
  else
    let cs := text.toList
    let stratum : Stratum :=
      { names := name :: s.finished, text := cs, blank := cs.getLast?.any Raw.isBlank }
    { s with strata := stratum :: s.strata, finished := [] }

/-- All that is still to be read. -/
def unread (s : Source) : List Char := s.strata.flatMap (·.text) ++ s.rest

end Source

namespace Reader

/-! ## Characters -/

/-- Says that the text is no script. -/
def fail {α : Type} (message : String) : Reader α := do
  throw { message := "Syntax error: " ++ message, line := (← get).line }

/-- The next character, which stays. -/
def peek : Reader (Option Char) := do
  if (← get).strata ≠ [] then modify Source.settle
  let s ← get
  match s.strata with
  | [] => return s.rest.head?
  | t :: _ => return t.text.head?

/-- Passes over the next character. -/
def advance : Reader Unit := modify fun s =>
  match s.strata with
  | [] => { s with rest := s.rest.drop 1, finished := [] }
  | t :: below =>
    if t.text = [] then { s with rest := s.rest.drop 1, finished := [] }
    else { s with strata := { t with text := t.text.drop 1 } :: below, finished := [] }

def newLine : Reader Unit := modify fun s => { s with line := s.line + 1 }

/-- Passes over the ends of lines that a backslash joins with the next. -/
def join : Nat → Reader Unit
  | 0 => return
  | fuel + 1 => do
    if (← peek) = some '\\' then
      if (← get).unread.drop 1 |>.head? |> (· = some '\n') then
        advance
        let _ ← peek
        advance
        newLine
        join fuel

/-- The next character of joined lines, which stays. -/
def peekJoined : Reader (Option Char) := do
  join (← get).limit
  peek

/-- The next character of joined lines. -/
def next : Reader (Option Char) := do
  let c ← peekJoined
  advance
  return c

/-- The characters of joined lines as long as they are of some kind. -/
def takeWhile (kind : Char → Bool) : Nat → Reader (List Char)
  | 0 => return []
  | fuel + 1 => do
    match ← peekJoined with
    | some c =>
      if kind c then
        advance
        return c :: (← takeWhile kind fuel)
      else return []
    | none => return []

/-! ## Tokens -/

/-- The next token is the last one again. -/
def pushBack : Reader Unit := modify fun s => { s with again := true }

def setCheck (check : Check) : Reader Unit := modify fun s => { s with check }

/-- Says which token has no place in the script, and which one could have. -/
def unexpected {α : Type} (awaited : Option Token) : Reader α := do
  let found := (← get).last.name ++ " unexpected"
  match awaited with
  | some t => fail (found ++ " (expecting " ++ t.name ++ ")")
  | none => fail found

end Reader

end BareMetal.Shell

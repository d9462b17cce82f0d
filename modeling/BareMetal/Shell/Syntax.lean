import BareMetal.Shell.Raw

/-!
# Scripts

The words and commands of which scripts for the shell consist.
-/

namespace BareMetal.Shell

/-- What a parameter in a word stands for. -/
inductive Use where
  /-- Its value. -/
  | plain
  /-- The word if there is no value. -/
  | otherwise
  /-- The word if there is a value, and else nothing. -/
  | instead
  /-- The word if there is no value, and the word is the value from then on. -/
  | assign
  /-- Its value, which has to be there; the word says what is wrong. -/
  | demand
  /-- The value without what the word matches at one end: as little as possible, or as much. -/
  | trim (atEnd greedy : Bool)
  /-- How long its value is. -/
  | length
  /-- Nothing that the shell knows. -/
  | malformed
  deriving DecidableEq, Repr

/-- What a redirection opens a file for. -/
inductive FileMode where
  | read
  | write
  /-- Writing, even if the script has asked to keep existing files. -/
  | replace
  | append
  | update
  deriving DecidableEq, Repr

mutual

/-- A part of a word. -/
inductive Part where
  /-- A character; one that is `kept` has no meaning in patterns. -/
  | char (c : Char) (kept : Bool)
  /-- A place at which quotes begin or end. -/
  | mark
  /-- A parameter; one with a null value counts as one without if `orNull` is set. -/
  | parameter (name : Raw) (use : Use) (orNull : Bool) (word : List Part)
  /-- What a command prints. -/
  | output (c : Command)
  /-- The value of a formula. -/
  | arithmetic (formula : List Part)

/-- Where a stream of a command leads, instead of where that of the script does. -/
inductive Redirection where
  | file (stream : Nat) (mode : FileMode) (path : List Part)
  /-- To where another stream leads. -/
  | copy (stream : Nat) (source : List Part)
  /-- From a text in the script, which is known by a number. -/
  | document (stream : Nat) (key : Nat)

inductive Command where
  | nothing
  /-- A program to run, and variables to set for it or, if there is none, for the script. -/
  | simple (line : Nat) (settings words : List (List Part)) (redirections : List Redirection)
  /-- Each gets to read what the one before it prints. -/
  | pipe (stages : List Command)
  | redirected (line : Nat) (c : Command) (redirections : List Redirection)
  /-- What changes in it changes nothing outside. -/
  | subshell (line : Nat) (c : Command) (redirections : List Redirection)
  /-- A command that nobody waits for. -/
  | background (line : Nat) (c : Command) (redirections : List Redirection)
  | sequence (c d : Command)
  /-- The second if the first succeeds. -/
  | conjunction (c d : Command)
  /-- The second if the first fails. -/
  | disjunction (c d : Command)
  | negation (c : Command)
  | choice (condition yes no : Command)
  /-- The body as long as the condition succeeds, or fails if `wanted` is not set. -/
  | loop (wanted : Bool) (condition body : Command)
  /-- The body for each of some words. -/
  | each (line : Nat) (name : Raw) (words : List (List Part)) (body : Command)
  /-- The body of the first case that the word has the form of. -/
  | select (line : Nat) (word : List Part) (cases : Cases)
  | define (name : Raw) (body : Command)

/-- Cases with the patterns that lead to them. -/
inductive Cases where
  | none
  | one (patterns : List (List Part)) (body : Command) (rest : Cases)

end

/-- A word, from which the expansion makes any number of texts. -/
abbrev Word := List Part

instance : Inhabited Command := ⟨.nothing⟩

namespace Word

/-- The text of a word without anything special in it. -/
def plainText? : Word → Option (List Char)
  | [] => some []
  | .char c false :: rest => (plainText? rest).map (c :: ·)
  | _ => none

/-- The characters of a word, without what is put there by quotes. -/
def text : Word → List Char
  | [] => []
  | .char c _ :: rest => c :: text rest
  | _ :: rest => text rest

/-- The name of a variable and an equality sign stand at the start of a word. -/
def isSetting : Word → Bool
  | .char c false :: rest => Raw.isNameStart c && go rest
  | _ => false
where
  go : Word → Bool
    | .char c false :: rest => c == '=' || (Raw.isNameChar c && go rest)
    | _ => false

/-- All parameters, each as a word. -/
def parameters : Word := [.mark, .parameter "@" .plain false [], .mark]

def ofText (cs : List Char) : Word := cs.map fun c => .char c false

end Word

end BareMetal.Shell

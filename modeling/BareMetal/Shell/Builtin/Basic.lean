import BareMetal.Shell.Grammar
import BareMetal.Shell.Number

/-!
# Commands of the shell: names, printing and options

What the commands that the shell carries out itself have in common.
-/

namespace BareMetal.Shell

namespace Builtin

/-- A command with its arguments. -/
abbrev Action := List Raw → Act Nat

/-! ## Names -/

/-- The commands that may be hidden by functions. -/
def regularNames : List Raw :=
  ["[", "alias", "bg", "cd", "chdir", "command", "echo", "false", "fg", "getopts", "hash", "jobs",
   "kill", "printf", "pwd", "read", "test", "true", "type", "ulimit", "umask", "unalias", "wait"]

def isSpecial (name : Raw) : Bool := Grammar.specialNames.contains name

def isBuiltin (name : Raw) : Bool := isSpecial name || regularNames.contains name

/-- The arguments of the command may set variables. -/
def takesSettings (name : Raw) : Bool := ["export", "readonly", "local"].contains name

/-! ## Printing -/

/-- Prints a text; a command that cannot has failed. -/
def print (text : Raw) : Act Nat := do
  let s ← get
  match s.write (Raw.bytes text) 1 with
  | .ok s =>
    set s
    return 0
  | .error _ =>
    set (s.warn (s.builtin.getD "" ++ ": I/O error"))
    return 1

def warn (message : Raw) : Act Unit := modify fun s => s.warn message

/-- Prints lines. -/
def printLines (lines : List Raw) : Act Nat := print (String.join (lines.map (· ++ "\n")))

/-! ## Options -/

/-- The options that an argument asks for, with the arguments that belong to them. -/
def letters (allowed : List Char) (rest : List Raw) :
    List Char → Act (List (Char × Raw) × List Raw)
  | [] => return ([], rest)
  | c :: cs => do
    if c = ':' || !allowed.contains c then Act.fail ("Illegal option -" ++ String.singleton c)
    if ((allowed.dropWhile (· ≠ c)).drop 1).head? = some ':' then
      match cs, rest with
      | [], [] => Act.fail ("No arg for -" ++ String.singleton c ++ " option")
      | [], value :: rest => return ([(c, value)], rest)
      | cs, rest => return ([(c, String.ofList cs)], rest)
    else
      let (others, rest) ← letters allowed rest cs
      return ((c, "") :: others, rest)

/-- The options at the start of some arguments, and the arguments behind them.  There are no more
than `fuel` of them. -/
def options (allowed : String) : Nat → List Raw → Act (List (Char × Raw) × List Raw)
  | 0, arguments => return ([], arguments)
  | _ + 1, [] => return ([], [])
  | fuel + 1, first :: rest => do
    match first.toList with
    | ['-', '-'] => return ([], rest)
    | '-' :: c :: cs =>
      let (found, rest) ← letters allowed.toList rest (c :: cs)
      let (others, rest) ← options allowed fuel rest
      return (found ++ others, rest)
    | _ => return ([], first :: rest)

def readOptions (allowed : String) (arguments : List Raw) :
    Act (List (Char × Raw) × List Raw) :=
  options allowed arguments.length arguments

end Builtin

end BareMetal.Shell

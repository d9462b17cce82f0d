import BareMetal.Shell.Number

/-!
# Conditions

What `test` and `[` find out about texts, numbers and files.
-/

namespace BareMetal.Shell

open Host

namespace Condition

/-! ## Operators -/

/-- What an argument is if it is no text. -/
inductive Kind where
  | unary
  | binary
  | not
  | and
  | or
  | opening
  | closing
  deriving DecidableEq, Repr

/-- The operators. -/
def kind? (text : Raw) : Option Kind :=
  if ["-r", "-w", "-x", "-e", "-f", "-d", "-c", "-b", "-p", "-u", "-g", "-k", "-s", "-t", "-z",
      "-n", "-h", "-O", "-G", "-L", "-S"].contains text then some .unary
  else if ["=", "!=", "<", ">", "-eq", "-ne", "-ge", "-gt", "-le", "-lt", "-nt", "-ot",
      "-ef"].contains text then some .binary
  else match text with
  | "!" => some .not
  | "-a" => some .and
  | "-o" => some .or
  | "(" => some .opening
  | ")" => some .closing
  | _ => none

/-- What the first of some arguments is.  An operator that cannot be one here is a text. -/
def kindAt? : List Raw → Option Kind
  | [] => none
  | text :: rest =>
    match kind? text with
    | some .unary =>
      match rest with
      | [] => none
      | [_] => some .unary
      | next :: _ => if kind? next = some .binary then none else some .unary
    | some .opening => if rest = [] then none else some .opening
    | kind => kind

/-! ## Files -/

def isFile (s : State) (path : Raw) : Bool :=
  match s.node? path with
  | some (.file _ _) | some (.program _) => true
  | _ => false

/-- What stands at a path stands for something elsewhere. -/
def isLink (s : State) (path : Raw) : Bool :=
  let name := (path.toList.reverse.takeWhile (· ≠ '/')).reverse
  let directory := String.ofList (path.toList.take (path.length - name.length))
  match s.locate? (if directory = "" then "." else directory) with
  | some l =>
    match s.world.files.node? (l ++ [Raw.toText (String.ofList name)]) with
    | some (.link _) => true
    | _ => false
  | none => false

/-- What a test of one argument finds out. -/
def unary (operator argument : Raw) : Act Bool := do
  let s ← get
  let node := s.node? argument
  match operator with
  | "-n" => return argument ≠ ""
  | "-z" => return argument = ""
  | "-t" =>
    let _ ← Act.integer argument
    return false
  | "-e" | "-r" | "-w" | "-O" | "-G" => return node.isSome
  | "-f" => return isFile s argument
  | "-h" | "-L" => return isLink s argument
  | "-d" => return node = some .directory
  | "-s" => return match node with
    | some (.file content _) => content.size ≠ 0
    | some (.device _) => false
    | other => other.isSome
  | "-x" => return match node with
    | some (.file _ executable) => executable
    | some (.device _) => false
    | other => other.isSome
  | "-c" => return match node with
    | some (.device _) => true
    | _ => false
  | _ => return false

/-- What a test of two arguments finds out. -/
def binary (operator a b : Raw) : Act Bool := do
  let compare (f : Int → Int → Bool) : Act Bool := do
    let m ← Act.integer a
    let n ← Act.integer b
    return f m n
  match operator with
  | "=" => return a = b
  | "!=" => return a ≠ b
  | "<" => return decide (a < b)
  | ">" => return decide (b < a)
  | "-eq" => compare fun m n => m = n
  | "-ne" => compare fun m n => m ≠ n
  | "-lt" => compare fun m n => m < n
  | "-le" => compare fun m n => m ≤ n
  | "-gt" => compare fun m n => n < m
  | "-ge" => compare fun m n => n ≤ m
  | "-ef" =>
    let s ← get
    return (s.node? a).isSome && (s.node? b).isSome && s.locate? a = s.locate? b
  | _ => return false

/-! ## Conditions -/

/-- A condition that is being read, from the argument that is looked at. -/
abbrev Reader (α : Type) := StateT (List Raw) Act α

/-- The argument that is looked at. -/
def current : Reader Raw := return (← get).headD ""

/-- What the next argument is; it is looked at then. -/
def advance : Reader (Option Kind) := do
  modify (·.drop 1)
  return kindAt? (← get)

/-- What the argument behind the one that is looked at is. -/
def ahead : Reader (Option Kind) := return kindAt? ((← get).drop 1)

/-- Says that an argument is missing behind an operator. -/
def demandArgument (operator : Raw) : Reader Unit := do
  if (← get) = [] then Act.fail (α := Unit) (operator ++ ": argument expected")

/-- The parts of conditions, those that bind most first. -/
inductive Level where
  | primary
  | negation
  | conjunction
  | disjunction
  deriving DecidableEq, Repr

/-- Reads a condition whose first argument is of some kind, and finds out whether it holds. -/
def evaluate : Nat → Level → Option Kind → Reader Bool
  | 0, _, _ => return false
  | fuel + 1, level, kind => do
    match level with
    | .primary =>
      if (← get) = [] then return false
      match kind with
      | some .opening =>
        let kind ← advance
        if kind = some .closing then return false
        let value ← evaluate fuel .disjunction kind
        if (← advance) ≠ some .closing then Act.fail (α := Unit) "closing paren expected"
        return value
      | some .unary =>
        let operator ← current
        let _ ← advance
        demandArgument operator
        unary operator (← current)
      | _ =>
        if (← ahead) = some .binary then
          let a ← current
          let _ ← advance
          let operator ← current
          let _ ← advance
          demandArgument operator
          binary operator a (← current)
        else return (← current) ≠ ""
    | .negation =>
      if kind ≠ some .not then evaluate fuel .primary kind
      else if (← get).length ≤ 1 then return true
      else
        let kind ← advance
        return !(← evaluate fuel .negation kind)
    | .conjunction =>
      let value ← evaluate fuel .negation kind
      if (← ahead) = some .and then
        let _ ← advance
        let kind ← advance
        let other ← evaluate fuel .conjunction kind
        return value && other
      else return value
    | .disjunction =>
      let value ← evaluate fuel .conjunction kind
      if (← ahead) = some .or then
        let _ ← advance
        let kind ← advance
        let other ← evaluate fuel .disjunction kind
        return value || other
      else return value

/-- A condition of any number of arguments. -/
def whole (arguments : List Raw) (kind : Option Kind) : Act Bool := do
  let (value, rest) ← (evaluate (4 * arguments.length + 8) .disjunction kind).run arguments
  match rest with
  | first :: _ :: _ =>
    Act.fail ((if first = "" then "" else first ++ ": ") ++ "unexpected operator")
  | _ => return value

/-- Whether a condition holds.  Conditions of few arguments are read by their number. -/
def holds : List Raw → Act Bool
  | [] => return false
  | [a, operator, b] => do
    if kind? operator = some .binary then whole [a, operator, b] none
    else if a = "(" && b = ")" then whole [operator] (kindAt? [operator])
    else if a = "!" then return !(← holds [operator, b])
    else whole [a, operator, b] (kindAt? [a, operator, b])
  | [a, b, c, d] => do
    if a = "(" && d = ")" then whole [b, c] (kindAt? [b, c])
    else if a = "!" then return !(← holds [b, c, d])
    else whole [a, b, c, d] (kindAt? [a, b, c, d])
  | arguments => whole arguments (kindAt? arguments)

end Condition

end BareMetal.Shell

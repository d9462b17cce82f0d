/-!
# Log records

What the tools tell about their work beside their output: a level, the part of the program that
speaks, and a message.
-/

namespace BareMetal.Log

/-- How important a record is. -/
inductive Level where
  | error
  | warn
  | info
  | debug
  deriving DecidableEq, Repr

/-- A level includes all that are more important. -/
def Level.rank : Level → Nat
  | error => 1
  | warn => 2
  | info => 3
  | debug => 4

/-- The name of a level in a column of its own. -/
def Level.label : Level → String
  | error => "ERROR"
  | warn => "WARN "
  | info => "INFO "
  | debug => "DEBUG"

structure Record where
  level : Level
  /-- The part of the program that speaks. -/
  target : String
  message : String
  deriving DecidableEq, Repr

end BareMetal.Log

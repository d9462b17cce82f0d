import BareMetal.Target.Arrival
import BareMetal.Text.Numeral
import BareMetal.Text.Split

/-!
# Errors in talking to a target
-/

namespace BareMetal.Target

/-- Why talking to a target fails. -/
inductive Error where
  | connect (address : String) (reason : IoError)
  | connectionClosed
  | noPrompt (prompt : String)
  /-- The loader on the target answered a command with something else. -/
  | badAck (command : String) (reply : Bytes)
  | serial (port reason : String)
  | io (e : IoError)
  deriving DecidableEq, Repr

namespace Error

/-- Bytes as a list of hexadecimal pairs. -/
def hexList (bytes : Bytes) : String :=
  "[" ++ Text.joinWith ", " (bytes.toList.map fun b => Numeral.hexPad 2 b.toNat) ++ "]"

def message : Error → String
  | connect address reason => "failed to connect to " ++ address ++ ": " ++ reason.message
  | connectionClosed => "connection closed before the response was complete"
  | noPrompt prompt => "no \"" ++ prompt ++ "\" prompt received"
  | badAck command reply => command ++ " not acknowledged (reply " ++ hexList reply ++ ")"
  | serial port reason => "serial port " ++ port ++ ": " ++ reason
  | io e => e.message

/-- The error and what caused it, each with its own text. -/
def chain : Error → List String
  | e@(connect _ reason) => [e.message, reason.message]
  | e@(serial _ reason) => [e.message, reason]
  | e => [e.message]

end Error

end BareMetal.Target

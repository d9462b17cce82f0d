import BareMetal.Text.LowerCase
import BareMetal.Text.Numeral

/-!
# Serial line settings

The speed of a serial line, its flow control, and how long a read waits.
-/

namespace BareMetal.Target

/-- How a receiver holds the sender up. -/
inductive FlowControl where
  | none
  | software
  | hardware
  deriving DecidableEq, Repr

/-- The name of a flow control in the log. -/
def FlowControl.label : FlowControl → String
  | none => "FlowNone"
  | software => "FlowSoftware"
  | hardware => "FlowHardware"

/-- The flow control of a name in any case. -/
def FlowControl.parse (s : String) : Except String FlowControl :=
  let name := Text.lowerCase s
  if name = "none" then .ok none
  else if name = "software" ∨ name = "xonxoff" then .ok software
  else if name = "hardware" ∨ name = "rtscts" then .ok hardware
  else .error
    ("Invalid flow control: " ++ s ++ ". Valid values are: none, software, hardware")

/-- The speed of a serial line in bits per second. -/
structure BaudRate where
  speed : Nat
  deriving DecidableEq, Repr

/-- The speed that a decimal number of at most 64 bits gives. -/
def BaudRate.parse (s : String) : Except String BaudRate :=
  match Numeral.readBelow? 0x10000000000000000 10 s.toList with
  | some 0 => .error "Baud rate must be non-zero"
  | some speed => .ok { speed }
  | Option.none => .error ("Invalid baud rate: " ++ s)

/-- The speeds that a serial line of the host can have. -/
def BaudRate.supported : List Nat :=
  [50, 75, 110, 134, 150, 200, 300, 600, 1200, 1800, 2400, 4800, 9600, 19200, 38400, 57600, 115200,
   230400, 460800, 500000, 576000, 921600, 1000000, 1152000, 1500000, 2000000, 2500000, 3000000,
   3500000, 4000000]

/-- The settings of a serial line. -/
structure SerialConfig where
  baud : BaudRate
  flow : FlowControl := .none
  /-- How long a read waits, in milliseconds. -/
  timeoutMs : Nat := 60000
  deriving DecidableEq, Repr

/-- The longest time that the host can wait: its seconds are signed words of 64 bits. -/
def SerialConfig.maxTimeoutMs : Nat := 0x7FFFFFFFFFFFFFFF * 1000 + 999

end BareMetal.Target

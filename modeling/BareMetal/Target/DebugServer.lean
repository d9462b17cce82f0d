import BareMetal.Target.Line
import BareMetal.Text.Utf8

/-!
# Debug server sessions

A debug server takes commands as text and answers them.  Commands and responses end with the same
byte.  A response is over when a read ends with it.
-/

namespace BareMetal.Target.DebugServer

/-- Ends a command and a response. -/
def terminator : UInt8 := 0x1A

/-- The bytes that one read gets at most. -/
def readSize : Nat := 4096

def log (message : String) : Event :=
  .log { level := .debug, target := "sweetada_link::openocd", message }

/-- The bytes of a command as they are sent. -/
def frame (command : String) : Bytes := (Bytes.ofText command).push terminator

/-- Sends a command. -/
def send (command : String) : Talk Unit := do
  Talk.emit (log ("OpenOCD <- " ++ command))
  Talk.write (frame command)
  Talk.flush

/-- The data in a read, and whether the response ends with it. -/
def content (chunk : Bytes) : Bytes × Bool :=
  if chunk.back? = some terminator then (chunk.pop, true) else (chunk, false)

/-- Reads the rest of a response of which `response` has been received. -/
def receiveRest (echo : Bool) (response : Bytes) (l : Line) : Except Error Bytes × Line :=
  match _taken : Arrival.read? readSize l.incoming with
  | none =>
    match l.idle with
    | .closed => (.error .connectionClosed, l)
    | .silent => (.error (.io timeout), l)
  | some (.error e, rest) =>
    if e.kind = .interrupted then receiveRest echo response { l with incoming := rest }
    else (.error (.io e), { l with incoming := rest })
  | some (.ok chunk, rest) =>
    let l := { l with incoming := rest }
    if chunk.size = 0 then (.error .connectionClosed, l)
    else
      let (data, done) := content chunk
      let l := if echo then l.emit (.console (Utf8.decodeLossy data)) else l
      let response := response ++ data
      if done then
        (.ok response, l.emit (log ("OpenOCD -> " ++ Utf8.decodeLossy response)))
      else receiveRest echo response l
  termination_by Arrival.totalWeight l.incoming
  decreasing_by
    · exact Arrival.totalWeight_read? (by decide) _taken
    · have := Arrival.totalWeight_read? (by decide) _taken
      split <;> simpa [Line.emit] using this

/-- Reads a response, and shows it as it arrives if `echo` is set. -/
def receive (echo : Bool) : Talk Bytes := receiveRest echo #[]

/-- Sends a command and reads its response. -/
def command (text : String) (echo : Bool) : Talk Bytes := do
  send text
  receive echo

/-- Ends a session. -/
def close : Talk Unit := Talk.flush

end BareMetal.Target.DebugServer

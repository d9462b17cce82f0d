import BareMetal.Fault
import BareMetal.Target.Line
import BareMetal.Text.Blank
import BareMetal.Text.Numeral

/-!
# S-records

A kernel as lines of hexadecimal, sent to a monitor that reads them from a serial line.  The last
record may carry the address at which the kernel starts.
-/

namespace BareMetal.Target.Records

/-- The pause after a record for a line speed, in milliseconds. -/
def lineDelay (speed : Nat) : Nat :=
  if speed = 115200 then 10 else if speed = 38400 then 30 else 50

/-- The digits of the address in a record that ends a file, by the kind of the record. -/
def addressDigits? : List Char → Option Nat
  | ['S', '7'] => some 8
  | ['S', '8'] => some 6
  | ['S', '9'] => some 4
  | _ => none

/-- The text of the address in a record, behind its kind and its count of two bytes each. -/
def addressField? (record : List Char) : Option (List Char) := do
  let (kind, rest) ← Text.takeBytes? 2 record
  let digits ← addressDigits? kind
  let (_, rest) ← Text.takeBytes? 2 rest
  let (field, _) ← Text.takeBytes? digits rest
  return field

/-- The start address in a record. -/
def startAddress (record : List Char) : Option UInt32 :=
  (addressField? record).bind (Numeral.word32? 16)

/-- The warning about a record whose address is no number. -/
def warnings (record : List Char) : List Event :=
  match addressField? record with
  | some field =>
    match Numeral.word32? 16 field with
    | some _ => []
    | none => [.log {
        level := .warn
        target := "sweetada_link::srecord"
        message := "Invalid start address in record " ++ String.ofList record }]
  | none => []

/-- The bytes that end a record. -/
def lineEnd : Bytes := #[0x0D, 0x0A]

/-- The records of a text. -/
def ofText (text : String) : List (List Char) := (Text.lines text.toList).map Text.trim

/-- Sends records one by one; `start` is the start address found so far. -/
def sendAll (start : Option UInt32) : List (List Char) → Talk (Option UInt32)
  | [] => pure start
  | record :: rest => do
    Talk.writeLine (Bytes.ofText (String.ofList record)) lineEnd
    Talk.emit .progress
    fun l => (.ok (), l.emitAll (warnings record))
    sendAll ((startAddress record).or start) rest

/-- Sends an empty line, and logs how many records there were before it. -/
def finish (count : Nat) : Talk Unit := do
  Talk.write lineEnd
  Talk.flush
  Talk.emit (.log {
    level := .debug
    target := "sweetada_link::srecord"
    message := "Sent " ++ Numeral.decimal count ++ " records" })

/-- Sends the records of a text and an empty line, and gives the last start address among them. -/
def send (text : String) : Talk (Option UInt32) := do
  let records := ofText text
  let start ← sendAll none records
  finish records.length
  return start

/-! ## The counter

Records are counted in a signed word of 32 bits while they are sent, which `send` leaves out. -/

/-- Where the counter of the records overflows. -/
def counterBound : Nat := 0x80000000

/-- Sends records one by one like `sendAll`, and counts them; `count` of them have been sent. -/
def sendAllCounted (start : Option UInt32) (count : Nat) :
    List (List Char) → Talk (Except Fault (Option UInt32 × Nat))
  | [] => return .ok (start, count)
  | record :: rest => do
    Talk.writeLine (Bytes.ofText (String.ofList record)) lineEnd
    Talk.emit .progress
    if count + 1 < counterBound then
      fun l => (.ok (), l.emitAll (warnings record))
      sendAllCounted ((startAddress record).or start) (count + 1) rest
    else return .error .overflow

/-- Sends the records of a text like `send`, unless there are too many to count. -/
def sendCounted (text : String) : Talk (Except Fault (Option UInt32)) := do
  match ← sendAllCounted none 0 (ofText text) with
  | .error fault => return .error fault
  | .ok (start, count) =>
    finish count
    return .ok start

end BareMetal.Target.Records

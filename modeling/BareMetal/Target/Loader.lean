import BareMetal.Endian
import BareMetal.Target.Line
import BareMetal.Text.Utf8

/-!
# The network loader

A loader in the target takes packets: a command of four letters, an address and a size, and
perhaps data.  It acknowledges a command by sending the packet's command back; the packets that
carry a binary are not acknowledged.
-/

namespace BareMetal.Target.Loader

/-- The commands of the loader. -/
inductive Command where
  | execute
  | loadBinary
  | partBinary
  | doneBinary
  | sendBinary
  | sendBinaryQuiet
  | version
  | returnValue
  | reboot
  deriving DecidableEq, Repr

namespace Command

def all : List Command :=
  [execute, loadBinary, partBinary, doneBinary, sendBinary, sendBinaryQuiet, version,
   returnValue, reboot]

/-- The letters of a command. -/
def text : Command → String
  | execute => "EXEC"
  | loadBinary => "LBIN"
  | partBinary => "PBIN"
  | doneBinary => "DBIN"
  | sendBinary => "SBIN"
  | sendBinaryQuiet => "SBIQ"
  | version => "VERS"
  | returnValue => "RETV"
  | reboot => "RBOT"

def tag (c : Command) : Bytes := Bytes.ofText c.text

/-- The command of some letters, which are matched exactly. -/
def find? (letters : String) : Option Command := all.find? fun c => c.text == letters

end Command

/-! ## Packets -/

/-- The head of a packet. -/
structure Header where
  tag : Bytes
  address : UInt32
  size : UInt32
  deriving DecidableEq, Repr

namespace Header

def byteSize : Nat := 12

def toBytes (h : Header) : Bytes :=
  h.tag ++ Endian.big.toBytes 4 h.address.toNat ++ Endian.big.toBytes 4 h.size.toNat

/-- The head in the first twelve bytes. -/
def ofBytes? (b : Bytes) : Option Header := do
  let address ← Endian.big.read? b 4 4
  let size ← Endian.big.read? b 8 4
  return { tag := b.extract 0 4, address := UInt32.ofNat address, size := UInt32.ofNat size }

end Header

/-- A packet. -/
def packet (c : Command) (address size : UInt32) (payload : Bytes) : Bytes :=
  Header.toBytes { tag := c.tag, address, size } ++ payload

/-! ## Conversations -/

/-- A use of a socket, and what came of it. -/
inductive Call where
  /-- A packet was handed over and taken. -/
  | sent (bytes : Bytes)
  /-- A packet was handed over and not taken. -/
  | refused (bytes : Bytes) (e : IoError)
  /-- A reply was waited for and came. -/
  | received (reply : Bytes)
  /-- A reply was waited for and did not come. -/
  | missed (e : IoError)
  deriving DecidableEq, Repr

/-- The packet that a socket took. -/
def Call.packet? : Call → Option Bytes
  | sent bytes => some bytes
  | _ => none

/-- A socket for packets: what has yet to arrive and what it has been used for. -/
structure Socket where
  incoming : List Arrival := []
  /-- The errors that the next packets meet; none for a packet that is taken. -/
  refusals : List (Option IoError) := []
  /-- Behind those, the number of packets taken in all, and the error of every one after them. -/
  sendError : Option (Nat × IoError) := none
  calls : Array Call := #[]
  events : Array Event := #[]
  deriving DecidableEq, Repr

namespace Socket

/-- The packets that have been taken. -/
def sent (s : Socket) : Array Bytes := s.calls.filterMap Call.packet?

/-- The error that the next packet meets. -/
def refusal (s : Socket) : Option IoError :=
  match s.refusals with
  | next :: _ => next
  | [] => s.sendError.bind fun (after, e) => if after ≤ s.sent.size then some e else none

def record (s : Socket) (c : Call) : Socket := { s with calls := s.calls.push c }

end Socket

/-- A conversation over a socket. -/
abbrev Exchange (α : Type) := ExceptT Error (StateM Socket) α

/-- The bytes of a packet that are read at most. -/
def replySize : Nat := 4096

/-- The bytes of data in a packet at most. -/
def chunkSize : Nat := 1024

/-- The letters of a command that an acknowledgement has to repeat. -/
def ackSize : Nat := 3

/-- The error of a wait for a packet that does not come. -/
def noReply : IoError := { kind := .timedOut, message := "no reply" }

def emit (e : Event) : Exchange Unit := fun s => (.ok (), { s with events := s.events.push e })

/-- Sends a packet. -/
def sendPacket (bytes : Bytes) : Exchange Unit := fun s =>
  let behind := { s with refusals := s.refusals.tail }
  match s.refusal with
  | none => (.ok (), behind.record (.sent bytes))
  | some e => (.error (.io e), behind.record (.refused bytes e))

/-- Receives a packet, of which no more is kept than fits. -/
def receivePacket : Exchange Bytes := fun s =>
  match s.incoming with
  | [] => (.error (.io noReply), s.record (.missed noReply))
  | .failure e :: rest => (.error (.io e), { s with incoming := rest }.record (.missed e))
  | .data bytes :: rest =>
    let reply := bytes.extract 0 replySize
    (.ok reply, { s with incoming := rest }.record (.received reply))

/-- Sends a command. -/
def send (c : Command) (address size : UInt32) (payload : Bytes) : Exchange Unit :=
  sendPacket (packet c address size payload)

/-- The reply begins with the letters of the command that count. -/
def acknowledges (c : Command) (reply : Bytes) : Bool :=
  ackSize ≤ reply.size && reply.extract 0 ackSize == c.tag.extract 0 ackSize

/-- Waits until the target has acknowledged a command. -/
def expectAck (c : Command) : Exchange Unit := do
  let reply ← receivePacket
  if acknowledges c reply then
    emit (.log {
      level := .debug
      target := "sweetada_link::bba"
      message := c.text ++ " acknowledged" })
  else throw (.badAck c.text reply)

/-- Sends a command and waits for its acknowledgement. -/
def transact (c : Command) (address size : UInt32) : Exchange Unit := do
  send c address size #[]
  expectAck c

/-- Sends pieces of a binary from an address on; addresses start over after the last one. -/
def sendPieces (address : UInt32) : List Bytes → Exchange Unit
  | [] => pure ()
  | piece :: rest => do
    let size := UInt32.ofNat piece.size
    send .partBinary address size piece
    emit .progress
    sendPieces (address + size) rest

/-- Brings a binary to an address. -/
def upload (address : UInt32) (data : Bytes) : Exchange Unit := do
  if Word32.bound ≤ data.size then
    throw (.io { kind := .invalidInput, message := "binary larger than 4GB" })
  transact .loadBinary address (UInt32.ofNat data.size)
  sendPieces address (Bytes.chunks chunkSize data)
  transact .doneBinary 0 0

/-- Starts the binary. -/
def execute (address : UInt32) : Exchange Unit := transact .execute address 0

end BareMetal.Target.Loader

import BareMetal.Target.LineEditor

/-!
# Monitor sessions

The monitor in the ROM of a board prompts for commands on a serial line.  It is woken with an empty
line, told to fetch a kernel, and told to start it.  Each command waits for the prompt that ends
the response to the one before.
-/

namespace BareMetal.Target.Monitor

def prompt : String := "dBUG> "

/-- The bytes that one read gets at most. -/
def readSize : Nat := 256

def log (message : String) : Event :=
  .log { level := .debug, target := "sweetada_link::dbug", message }

/-- What is shown and logged for a byte behind a line. -/
def events (echo : Bool) (line : List Char) (b : UInt8) : List Event :=
  (if b = LineEditor.lineFeed then [log ("dBUG -> " ++ LineEditor.finished line)] else []) ++
    (if echo then (LineEditor.shown line b).map .console else [])

/-- The line after some bytes, with what is shown for them on the way. -/
def feed (echo : Bool) (line : List Char) (l : Line) : List UInt8 → List Char × Line
  | [] => (line, l)
  | b :: rest => feed echo (LineEditor.edit line b) (l.emitAll (events echo line b)) rest

theorem feed_eq (echo : Bool) (line : List Char) (l : Line) (bytes : List UInt8) :
    ∃ events, feed echo line l bytes = (LineEditor.editAll line bytes, { l with events }) := by
  induction bytes generalizing line l with
  | nil => exact ⟨l.events, rfl⟩
  | cons b rest ih => exact ih (LineEditor.edit line b) (l.emitAll (events echo line b))

theorem incoming_feed (echo : Bool) (line : List Char) (l : Line) (bytes : List UInt8) :
    (feed echo line l bytes).2.incoming = l.incoming := by
  obtain ⟨events, fed⟩ := feed_eq echo line l bytes
  rw [fed]

/-- Reads on behind a line until it ends with `awaited` or nothing more is to come. -/
def readFrom (echo : Bool) (awaited : String) (line : List Char) (l : Line) :
    Except Error String × Line :=
  match _taken : Arrival.read? readSize l.incoming with
  | none => (.ok (LineEditor.text line), l)
  | some (.error e, rest) =>
    match e.kind with
    | .interrupted => readFrom echo awaited line { l with incoming := rest }
    | .timedOut => (.ok (LineEditor.text line), { l with incoming := rest })
    | .wouldBlock => (.ok (LineEditor.text line), { l with incoming := rest })
    | _ => (.error (.io e), { l with incoming := rest })
  | some (.ok chunk, rest) =>
    if chunk.size = 0 then (.ok (LineEditor.text line), { l with incoming := rest })
    else
      let next := feed echo line { l with incoming := rest } chunk.toList
      if LineEditor.endsWith awaited next.1 then (.ok (LineEditor.text next.1), next.2)
      else readFrom echo awaited next.1 next.2
  termination_by Arrival.totalWeight l.incoming
  decreasing_by
    · exact Arrival.totalWeight_read? (by decide) _taken
    · rw [incoming_feed]
      exact Arrival.totalWeight_read? (by decide) _taken

/-- Reads a response: the unfinished line when it ends with `awaited`, or when nothing more is to
come.  Finished lines are shown and dropped. -/
def readResponse (echo : Bool) (awaited : String) : Talk String := readFrom echo awaited []

/-- Reads up to a prompt. -/
def waitPrompt (echo : Bool) (awaited : String) : Talk Unit := do
  let response ← readResponse echo awaited
  if awaited.toList.reverse.isPrefixOf response.toList.reverse then pure ()
  else throw (.noPrompt awaited)

/-- Sends a line. -/
def sendLine (line : String) : Talk Unit := do
  Talk.emit (log ("dBUG <- " ++ line))
  Talk.writeLine (Bytes.ofText line) #[LineEditor.lineFeed]

/-- Wakes the monitor. -/
def attention (echo : Bool) : Talk Unit := do
  sendLine ""
  waitPrompt echo prompt

/-- Lets the monitor fetch a file. -/
def download (echo : Bool) (file : String) : Talk Unit := do
  sendLine ("dn " ++ file)
  waitPrompt echo prompt

/-- Starts what has been fetched; there is no response to it. -/
def go (address : String) : Talk Unit := sendLine ("go " ++ address)

/-- Wakes the monitor, lets it fetch a file and starts it. -/
def run (echo : Bool) (file address : String) : Talk Unit := do
  attention echo
  download echo file
  go address

end BareMetal.Target.Monitor

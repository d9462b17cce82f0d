import BareMetal.Proofs.Outcome
import BareMetal.Proofs.Target.Response
import BareMetal.Target.Download

/-!
# Commands and their answers

On a line that takes all that is written a command is sent whole, and its response is read behind
it.  A far end that answers every command gets them all in order, each of them gets its own
response, and nothing is left unread or read ahead (`commands_answered`).
-/

namespace BareMetal.Target

namespace DebugServer

/-- The bytes of some commands as they are sent. -/
def frames (commands : List String) : Bytes := Bytes.join (commands.map frame)

@[simp] theorem frames_cons (text : String) (commands : List String) :
    frames (text :: commands) = frame text ++ frames commands := rfl

theorem frames_concat (commands : List String) (text : String) :
    frames (commands ++ [text]) = frames commands ++ frame text := by
  rw [frames, List.map_append, List.map_singleton, Bytes.join_concat]
  rfl

/-- Fewer commands have other bytes. -/
theorem frames_take_inj {commands : List String} {j k : Nat} (hj : j ≤ commands.length)
    (hk : k ≤ commands.length) (same : frames (commands.take j) = frames (commands.take k)) :
    j = k := by
  induction commands generalizing j k with
  | nil => exact (Nat.le_zero.1 hj).trans (Nat.le_zero.1 hk).symm
  | cons text rest ih =>
    have some_bytes (others : Bytes) : frame text ++ others ≠ #[] := fun none => by
      have size_eq := congrArg Array.size none
      simp [frame] at size_eq
    cases j with
    | zero =>
      cases k with
      | zero => rfl
      | succ k => exact absurd same.symm (some_bytes _)
    | succ j =>
      cases k with
      | zero => exact absurd same (some_bytes _)
      | succ k =>
        rw [List.take_succ_cons, List.take_succ_cons, frames_cons, frames_cons,
          Array.append_right_inj] at same
        rw [ih (Nat.le_of_succ_le_succ hj) (Nat.le_of_succ_le_succ hk) same]

variable {echo : Bool} {l : Line}

theorem send_eq (h : l.Accepting) (text : String) : ∃ events, send text l =
    (.ok (), { l with written := l.written ++ frame text, flushes := l.flushes + 1, events }) := by
  refine ⟨l.events.push (log ("OpenOCD <- " ++ text)), ?_⟩
  rw [send, Outcome.bind_of_ok (rfl : Talk.emit _ l = _), Outcome.bind_of_ok (Talk.write_eq _ _)]
  · rfl
  · exact ⟨h.peer, h.writeError, h.maxWrite, h.paused⟩

/-- A command whose reads answer it gives the response. -/
theorem command_of_answers (h : l.Accepting) {text : String} {readings : List Reading}
    {response : Bytes} {rest : List Arrival}
    (reads : Reads readSize l.idle l.incoming readings rest) (answers : Answers readings response) :
    ∃ events, command text echo l = (.ok response, { l with
      incoming := rest, written := l.written ++ frame text, flushes := l.flushes + 1, events }) := by
  obtain ⟨events, sent⟩ := send_eq h text
  obtain ⟨events', received⟩ : ∃ events', receive echo { l with
      written := l.written ++ frame text, flushes := l.flushes + 1, events } = _ :=
    receive_of_answers reads answers
  exact ⟨events', by rw [command, Outcome.bind_of_ok sent, received]⟩

/-! ## Far ends that answer -/

/-- The arrivals bring some bytes in non-empty pieces that one read can take, however many reads
are interrupted before each of them. -/
inductive Brings : List Arrival → Bytes → Prop
  | last {chunk : Bytes} : 0 < chunk.size → chunk.size ≤ readSize → Brings [.data chunk] chunk
  | piece {chunk : Bytes} {arrivals : List Arrival} {bytes : Bytes} :
    0 < chunk.size → chunk.size ≤ readSize → Brings arrivals bytes →
    Brings (.data chunk :: arrivals) (chunk ++ bytes)
  | interrupted {e : IoError} {arrivals : List Arrival} {bytes : Bytes} :
    e.kind = .interrupted → Brings arrivals bytes → Brings (.failure e :: arrivals) bytes

namespace Brings

variable {arrivals : List Arrival} {bytes response : Bytes}

theorem fitsRead (h : Brings arrivals bytes) : ∀ a ∈ arrivals, a.FitsRead readSize := by
  induction h with
  | last _ small =>
    intro a mem
    rw [List.mem_singleton.1 mem]
    exact small
  | piece _ small _ ih => exact List.forall_mem_cons.2 ⟨small, ih⟩
  | interrupted _ _ ih => exact List.forall_mem_cons.2 ⟨trivial, ih⟩

theorem ne_empty (h : Brings arrivals bytes) : bytes ≠ #[] := by
  induction h with
  | last filled _ => exact Array.ne_empty_of_size_pos filled
  | piece filled _ _ _ =>
    refine Array.ne_empty_of_size_pos ?_
    rw [Array.size_append]
    omega
  | interrupted _ _ ih => exact ih

/-- Arrivals that bring a response and one terminator are read as that response. -/
theorem answers (h : Brings arrivals bytes) (bytes_eq : bytes = response.push terminator)
    (clean : terminator ∉ response) : Answers (arrivals.map Arrival.reading) response := by
  induction h generalizing response with
  | @last chunk filled small =>
    refine ⟨[], .ok chunk, rfl, by simp, ?_, ?_⟩
    · rw [Completes, bytes_eq, Array.back?_push]
    · exact Array.append_empty.trans bytes_eq
  | @piece chunk arrivals bytes filled small rest ih =>
    -- the terminator is the last byte of the pieces still to come, so this piece holds none
    obtain ⟨tail, b, rfl⟩ : ∃ (tail : Bytes) (b : UInt8), bytes = tail.push b :=
      Array.exists_push_of_ne_empty rest.ne_empty
    rw [Array.append_push, Array.push_eq_push] at bytes_eq
    obtain ⟨rfl, rfl⟩ := bytes_eq
    refine (ih rfl fun mem => clean (Array.mem_append_right _ mem)).cons ⟨Nat.ne_of_gt filled, ?_⟩
    exact fun ended => clean (Array.mem_append_left _ (Array.mem_of_back? ended))
  | @interrupted e arrivals bytes kind_eq rest ih =>
    have goesOn : GoesOn (.error e) := kind_eq
    have opened := (ih bytes_eq clean).cons goesOn
    rwa [Reading.bytes, Array.empty_append] at opened

end Brings

/-- A command, the response to it, and how the response arrives. -/
structure Exchange where
  command : String
  response : Bytes
  arrivals : List Arrival

/-- The response holds no terminator, and arrives with one behind it. -/
structure Exchange.Proper (x : Exchange) : Prop where
  clean : terminator ∉ x.response
  brings : Brings x.arrivals (x.response.push terminator)

theorem Exchange.Proper.reads {x : Exchange} (h : x.Proper) (idle : Idle) (rest : List Arrival) :
    Reads readSize idle (x.arrivals ++ rest) (x.arrivals.map Arrival.reading) rest :=
  Reads.of_fitsRead h.brings.fitsRead

theorem Exchange.Proper.answers {x : Exchange} (h : x.Proper) :
    Answers (x.arrivals.map Arrival.reading) x.response :=
  h.brings.answers rfl h.clean

/-! ## Many commands -/

/-- Sends some commands, each after the response to the one before, and gives the responses. -/
def askAll (echo : Bool) (commands : List String) : Talk (List Bytes) :=
  commands.mapM fun text => command text echo

theorem askAll_cons (text : String) (commands : List String) :
    askAll echo (text :: commands) = do
      let response ← command text echo
      let responses ← askAll echo commands
      return response :: responses :=
  List.mapM_cons

theorem askAll_of_ok {text : String} {commands : List String} {response : Bytes}
    {responses : List Bytes} {l₁ l' : Line} (first : command text echo l = (.ok response, l₁))
    (others : askAll echo commands l₁ = (.ok responses, l')) :
    askAll echo (text :: commands) l = (.ok (response :: responses), l') := by
  rw [askAll_cons, Outcome.bind_of_ok first, Outcome.bind_of_ok others]
  rfl

/-- A far end that answers every command is heard in full, and no further. -/
theorem askAll_of_proper (h : l.Accepting) {exchanges : List Exchange}
    (proper : ∀ x ∈ exchanges, x.Proper) {rest : List Arrival}
    (incoming_eq : l.incoming = exchanges.flatMap (·.arrivals) ++ rest) :
    ∃ l' : Line,
      askAll echo (exchanges.map (·.command)) l = (.ok (exchanges.map (·.response)), l') ∧
      l'.incoming = rest ∧ l'.written = l.written ++ frames (exchanges.map (·.command)) := by
  induction exchanges generalizing l with
  | nil => exact ⟨l, rfl, incoming_eq, Array.append_empty.symm⟩
  | cons x exchanges ih =>
    have x_proper := proper x List.mem_cons_self
    -- the arrivals of the first response are read, and those of the others are left
    have reads := x_proper.reads l.idle (exchanges.flatMap (·.arrivals) ++ rest)
    rw [← List.append_assoc, ← List.flatMap_cons, ← incoming_eq] at reads
    obtain ⟨events, asked⟩ : ∃ events, command x.command echo l = _ :=
      command_of_answers h reads x_proper.answers
    obtain ⟨l', others_asked, rest_eq, written_eq⟩ := ih (l := { l with
        incoming := exchanges.flatMap (·.arrivals) ++ rest
        written := l.written ++ frame x.command, flushes := l.flushes + 1, events })
      ⟨h.peer, h.writeError, h.maxWrite, h.paused⟩
      (fun y mem => proper y (List.mem_cons_of_mem x mem)) rfl
    refine ⟨l', askAll_of_ok asked others_asked, rest_eq, ?_⟩
    rw [written_eq, List.map_cons, frames_cons, Array.append_assoc]

end DebugServer

/-! ## Downloads -/

/-- The text of a step that is a command. -/
def Step.text? : Step → Option String
  | command text => some text
  | settle _ => none

namespace Download

/-- The commands of a download in order. -/
def commandTexts (d : Download) : List String := d.steps.filterMap Step.text?

theorem performAll_eq (echo : Bool) (steps : List Step) :
    performAll echo steps =
      (fun _ => ()) <$> DebugServer.askAll echo (steps.filterMap Step.text?) := by
  induction steps with
  | nil => rfl
  | cons step steps ih =>
    cases step with
    | command text =>
      have texts_eq : (Step.command text :: steps).filterMap Step.text? =
        text :: steps.filterMap Step.text? := rfl
      rw [performAll, perform, ih, texts_eq, DebugServer.askAll_cons]
      simp only [bind_assoc, pure_bind, map_eq_pure_bind]
    | settle ms =>
      rw [performAll, perform, ih, List.filterMap_cons_none rfl, pure_bind]

/-- A download is its commands, sent one by one. -/
theorem run_eq (d : Download) (echo : Bool) :
    d.run echo = (fun _ => ()) <$> DebugServer.askAll echo d.commandTexts :=
  performAll_eq echo d.steps

end Download

namespace DebugServer

/-- A far end that answers every command: each command gets its own response, the arrivals of the
responses are all read and nothing behind them is, and the commands are written in order.  A
download with these commands goes through. -/
theorem commands_answered {echo : Bool} {l : Line} (h : l.Accepting) {exchanges : List Exchange}
    (proper : ∀ x ∈ exchanges, x.Proper) {rest : List Arrival}
    (incoming_eq : l.incoming = exchanges.flatMap (·.arrivals) ++ rest) :
    ∃ l' : Line,
      askAll echo (exchanges.map (·.command)) l = (.ok (exchanges.map (·.response)), l') ∧
      l'.incoming = rest ∧ l'.written = l.written ++ frames (exchanges.map (·.command)) ∧
      ∀ d : Download, d.commandTexts = exchanges.map (·.command) → d.run echo l = (.ok (), l') := by
  obtain ⟨l', asked, incoming_eq, written_eq⟩ := askAll_of_proper h proper incoming_eq
  refine ⟨l', asked, incoming_eq, written_eq, fun d texts_eq => ?_⟩
  rw [d.run_eq, texts_eq]
  exact Outcome.map_of_ok asked

/-- The settings of a download whose far end is interrupted, and sends the terminator on its own. -/
theorem commands_answered_in_pieces :
    let d : Download := { elf := "kernel", startAddress := "0x8000", noload := true, noexec := true }
    let exchanges := d.commandTexts.map fun text => (Exchange.mk text #[0x6F, 0x6B]
      [.failure ⟨.interrupted, ""⟩, .data #[0x6F, 0x6B], .data #[terminator]])
    ∃ l' : Line, askAll true d.commandTexts { incoming := exchanges.flatMap (·.arrivals) } =
        (.ok (d.commandTexts.map fun _ => #[0x6F, 0x6B]), l') ∧
      l'.incoming = [] ∧ l'.written = frames d.commandTexts ∧
      d.run true { incoming := exchanges.flatMap (·.arrivals) } = (.ok (), l') := by
  intro d exchanges
  have texts_eq : d.commandTexts = exchanges.map (·.command) := by
    simp only [exchanges, List.map_map, Function.comp_def, List.map_id']
  have responses_eq : exchanges.map (·.response) = d.commandTexts.map fun _ => #[0x6F, 0x6B] := by
    simp only [exchanges, List.map_map, Function.comp_def]
  have clean : terminator ∉ (#[0x6F, 0x6B] : Bytes) := by simp [terminator]
  have proper : ∀ x ∈ exchanges, x.Proper := by
    intro x mem
    obtain ⟨text, -, rfl⟩ := List.mem_map.1 mem
    exact ⟨clean, .interrupted rfl (.piece (by decide) (by decide) (.last (by decide) (by decide)))⟩
  obtain ⟨l', asked, incoming_eq, written_eq, run⟩ := commands_answered
    (l := { incoming := exchanges.flatMap (·.arrivals) }) ⟨rfl, rfl, nofun, rfl⟩ proper
    (List.append_nil _).symm
  rw [← texts_eq, responses_eq] at asked
  rw [← texts_eq, Array.empty_append] at written_eq
  exact ⟨l', asked, incoming_eq, written_eq, run d texts_eq⟩

end DebugServer

end BareMetal.Target

import BareMetal.Target.DebugServer
import BareMetal.Proofs.Target.Line

/-!
# Reading a response

A read leaves the response open, ends it or breaks it off, and receiving a response makes reads up
to the first that does not leave it open (`exists_reads`, `receiveRest_of_goesOn`,
`receiveRest_of_completes`, `receiveRest_of_breaksOff`).
-/

namespace BareMetal.Target

namespace DebugServer

/-- The read leaves a response open: it was interrupted, or it does not end with the terminator. -/
def GoesOn : Reading → Prop
  | .ok chunk => chunk.size ≠ 0 ∧ chunk.back? ≠ some terminator
  | .error e => e.kind = .interrupted

/-- The read ends a response. -/
def Completes : Reading → Prop
  | .ok chunk => chunk.back? = some terminator
  | .error _ => False

/-- The read breaks a response off with an error. -/
def BreaksOff : Reading → Error → Prop
  | .ok chunk, failure => chunk.size = 0 ∧ failure = .connectionClosed
  | .error e, failure => e.kind ≠ .interrupted ∧ failure = .io e

theorem Completes.exists_push {reading : Reading} (h : Completes reading) :
    ∃ chunk : Bytes, reading.bytes = chunk.push terminator := by
  cases reading with
  | ok chunk => exact Array.back?_eq_some_iff.1 h
  | error e => exact h.elim

theorem Completes.bytes_ne_empty {reading : Reading} (h : Completes reading) :
    reading.bytes ≠ #[] := by
  obtain ⟨chunk, chunk_eq⟩ := h.exists_push
  rw [chunk_eq]
  exact Array.push_ne_empty

theorem goesOn_or_completes_or_breaksOff (reading : Reading) :
    GoesOn reading ∨ Completes reading ∨ ∃ failure, BreaksOff reading failure := by
  cases reading with
  | ok chunk =>
    by_cases empty : chunk.size = 0
    · exact Or.inr (Or.inr ⟨_, empty, rfl⟩)
    · by_cases ended : chunk.back? = some terminator
      · exact Or.inr (Or.inl ended)
      · exact Or.inl ⟨empty, ended⟩
  | error e =>
    by_cases interrupted : e.kind = .interrupted
    · exact Or.inl interrupted
    · exact Or.inr (Or.inr ⟨_, interrupted, rfl⟩)

theorem not_goesOn_idle (idle : Idle) : ¬ GoesOn idle.reading := by
  cases idle with
  | closed => exact fun goesOn => goesOn.1 rfl
  | silent => exact nofun

/-- The reads are those of a whole response: the last one ends it, all others leave it open, and
together they bring the response and the terminator. -/
def Answers (readings : List Reading) (response : Bytes) : Prop :=
  ∃ opened last, readings = opened ++ [last] ∧ (∀ r ∈ opened, GoesOn r) ∧ Completes last ∧
    Reading.bytesOf readings = response.push terminator

theorem Answers.cons {reading : Reading} {readings : List Reading} {response : Bytes}
    (h : Answers readings response) (goesOn : GoesOn reading) :
    Answers (reading :: readings) (reading.bytes ++ response) := by
  obtain ⟨opened, last, rfl, goOn, completes, bytes_eq⟩ := h
  refine ⟨reading :: opened, last, rfl, List.forall_mem_cons.2 ⟨goesOn, goOn⟩, completes, ?_⟩
  rw [Reading.bytesOf_cons, bytes_eq, Array.append_push]

/-- The reads are those of a response that the last of them breaks off. -/
def BrokenOff (readings : List Reading) (failure : Error) : Prop :=
  ∃ opened last, readings = opened ++ [last] ∧ (∀ r ∈ opened, GoesOn r) ∧ BreaksOff last failure

/-- Sooner or later a read does not leave the response open. -/
theorem exists_reads (idle : Idle) (incoming : List Arrival) :
    ∃ opened last rest, Reads readSize idle incoming (opened ++ [last]) rest ∧
      (∀ r ∈ opened, GoesOn r) ∧ ¬ GoesOn last := by
  obtain ⟨opened, last, rest, reads, goOn, ends⟩ := Reads.exists_until
    (by decide : 0 < readSize) (fun _ => GoesOn) (fun _ => not_goesOn_idle idle) incoming
  refine ⟨opened, last, rest, reads, fun r mem => ?_, ends⟩
  obtain ⟨front, back, split_eq⟩ := List.append_of_mem mem
  exact goOn front r back split_eq

/-! ## Receiving -/

/-- Receiving goes on behind a read. -/
def receiveBehind (echo : Bool) (response : Bytes) (l : Line) : Reading → Except Error Bytes × Line
  | .error e =>
    if e.kind = .interrupted then receiveRest echo response l else (.error (.io e), l)
  | .ok chunk =>
    if chunk.size = 0 then (.error .connectionClosed, l)
    else
      let l := if echo then l.emit (.console (Utf8.decodeLossy (content chunk).1)) else l
      let response := response ++ (content chunk).1
      if (content chunk).2 then
        (.ok response, l.emit (log ("OpenOCD -> " ++ Utf8.decodeLossy response)))
      else receiveRest echo response l

section

variable {echo : Bool} {response : Bytes} {l : Line} {reading : Reading} {rest : List Arrival}

theorem receiveRest_eq (h : Arrival.next readSize l.idle l.incoming = (reading, rest)) :
    receiveRest echo response l =
      receiveBehind echo response { l with incoming := rest } reading := by
  rw [Arrival.next] at h
  rw [receiveRest]
  split
  · rename_i taken
    rw [taken, Option.getD_none, Prod.mk.injEq] at h
    obtain ⟨rfl, rfl⟩ := h
    show _ = receiveBehind echo response l l.idle.reading
    cases l.idle with
    | closed => rfl
    | silent => rfl
  · rename_i e others taken
    rw [taken, Option.getD_some, Prod.mk.injEq] at h
    obtain ⟨rfl, rfl⟩ := h
    rfl
  · rename_i chunk others taken
    rw [taken, Option.getD_some, Prod.mk.injEq] at h
    obtain ⟨rfl, rfl⟩ := h
    rfl

theorem content_of_back {chunk : Bytes} (h : chunk.back? = some terminator) :
    content chunk = (chunk.pop, true) := if_pos h

theorem content_of_not_back {chunk : Bytes} (h : chunk.back? ≠ some terminator) :
    content chunk = (chunk, false) := if_neg h

/-- A read that leaves the response open adds its bytes. -/
theorem receiveRest_of_goesOn (h : Arrival.next readSize l.idle l.incoming = (reading, rest))
    (goesOn : GoesOn reading) : ∃ events, receiveRest echo response l =
      receiveRest echo (response ++ reading.bytes) { l with incoming := rest, events } := by
  rw [receiveRest_eq h]
  cases reading with
  | error e =>
    refine ⟨l.events, ?_⟩
    rw [Reading.bytes, Array.append_empty]
    exact if_pos goesOn
  | ok chunk =>
    obtain ⟨filled, open_end⟩ := goesOn
    rw [receiveBehind, if_neg filled, content_of_not_back open_end]
    cases echo with
    | true => exact ⟨_, rfl⟩
    | false => exact ⟨_, rfl⟩

/-- A read that ends the response gives it without the terminator. -/
theorem receiveRest_of_completes (h : Arrival.next readSize l.idle l.incoming = (reading, rest))
    (completes : Completes reading) : ∃ events, receiveRest echo response l =
      (.ok (response ++ reading.bytes.pop), { l with incoming := rest, events }) := by
  rw [receiveRest_eq h]
  cases reading with
  | error e => exact completes.elim
  | ok chunk =>
    have filled : chunk.size ≠ 0 := fun empty =>
      completes.bytes_ne_empty (Array.eq_empty_of_size_eq_zero empty)
    rw [receiveBehind, if_neg filled, content_of_back completes]
    cases echo with
    | true => exact ⟨_, rfl⟩
    | false => exact ⟨_, rfl⟩

/-- A read that breaks the response off is an error. -/
theorem receiveRest_of_breaksOff (h : Arrival.next readSize l.idle l.incoming = (reading, rest))
    {failure : Error} (breaksOff : BreaksOff reading failure) :
    receiveRest echo response l = (.error failure, { l with incoming := rest }) := by
  rw [receiveRest_eq h]
  cases reading with
  | error e =>
    obtain ⟨other, rfl⟩ := breaksOff
    exact if_neg other
  | ok chunk =>
    obtain ⟨empty, rfl⟩ := breaksOff
    exact if_pos empty

/-- Reads that leave the response open add all their bytes. -/
theorem receiveRest_of_reads {readings : List Reading}
    (reads : Reads readSize l.idle l.incoming readings rest) (goOn : ∀ r ∈ readings, GoesOn r) :
    ∃ events, receiveRest echo response l =
      receiveRest echo (response ++ Reading.bytesOf readings)
        { l with incoming := rest, events } := by
  induction readings generalizing l response with
  | nil =>
    cases reads
    exact ⟨l.events, by rw [Reading.bytesOf_nil, Array.append_empty]⟩
  | cons reading readings ih =>
    cases reads with
    | cons next_eq reads =>
      obtain ⟨events, step⟩ := receiveRest_of_goesOn next_eq (goOn reading (by simp))
      obtain ⟨events', run⟩ := ih (l := { l with incoming := _, events }) reads
        fun r mem => goOn r (by simp [mem])
      exact ⟨events', by rw [step, run, Reading.bytesOf_cons, Array.append_assoc]⟩

theorem receive_of_answers {readings : List Reading}
    (reads : Reads readSize l.idle l.incoming readings rest) (answers : Answers readings response) :
    ∃ events, receive echo l = (.ok response, { l with incoming := rest, events }) := by
  obtain ⟨opened, last, rfl, goOn, completes, bytes_eq⟩ := answers
  obtain ⟨between, reads, last_read⟩ := reads.of_append
  obtain ⟨events, run⟩ := receiveRest_of_reads reads goOn
  obtain ⟨events', step⟩ := receiveRest_of_completes (l := { l with incoming := between, events })
    last_read.next_of_singleton completes
  rw [Reading.bytesOf_concat] at bytes_eq
  have response_eq : response = Reading.bytesOf opened ++ last.bytes.pop := by
    rw [← Array.pop_append_of_ne_empty completes.bytes_ne_empty, bytes_eq, Array.pop_push]
  exact ⟨events', by rw [receive, run, step, Array.empty_append, response_eq]⟩

theorem receive_of_brokenOff {readings : List Reading} {failure : Error}
    (reads : Reads readSize l.idle l.incoming readings rest)
    (brokenOff : BrokenOff readings failure) :
    ∃ events, receive echo l = (.error failure, { l with incoming := rest, events }) := by
  obtain ⟨opened, last, rfl, goOn, breaksOff⟩ := brokenOff
  obtain ⟨between, reads, last_read⟩ := reads.of_append
  obtain ⟨events, run⟩ := receiveRest_of_reads reads goOn
  refine ⟨events, ?_⟩
  rw [receive, run, receiveRest_of_breaksOff (l := { l with incoming := between, events })
    last_read.next_of_singleton breaksOff]

/-- Receiving makes the reads of a whole response or of one that is broken off. -/
theorem exists_reads_receive (l : Line) : ∃ readings rest,
    Reads readSize l.idle l.incoming readings rest ∧
      ((∃ response, Answers readings response) ∨ ∃ failure, BrokenOff readings failure) := by
  obtain ⟨opened, last, rest, reads, goOn, ends⟩ := exists_reads l.idle l.incoming
  refine ⟨_, rest, reads, ?_⟩
  rcases goesOn_or_completes_or_breaksOff last with goesOn | completes | ⟨failure, breaksOff⟩
  · exact absurd goesOn ends
  · obtain ⟨chunk, chunk_eq⟩ := completes.exists_push
    refine Or.inl ⟨Reading.bytesOf opened ++ chunk, opened, last, rfl, goOn, completes, ?_⟩
    rw [Reading.bytesOf_concat, chunk_eq, Array.append_push]
  · exact Or.inr ⟨failure, opened, last, rfl, goOn, breaksOff⟩

end

end DebugServer

end BareMetal.Target

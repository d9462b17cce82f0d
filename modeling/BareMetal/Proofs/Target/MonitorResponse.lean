import BareMetal.Target.Monitor
import BareMetal.Proofs.Target.Line
import Mathlib.Tactic.SplitIfs

/-!
# Responses of a monitor

The line that a monitor is writing is what its bytes leave of it (`LineEditor.edited`), in whatever
pieces they are read.  Reading a response makes reads as long as they leave it open, and the first
that does not closes it, with the line that all bytes so far leave or with an error
(`readResponse_closes`).
-/

namespace BareMetal.Target

/-! ## Edited lines -/

namespace LineEditor

/-- A line in reading order after one more byte. -/
def typed (line : List Char) (b : UInt8) : List Char :=
  if b = lineFeed then [] else if b = backspace then line.dropLast else line ++ [character b]

/-- The line that some bytes leave. -/
def edited (bytes : Bytes) : String := String.ofList (bytes.toList.foldl typed [])

theorem reverse_edit (line : List Char) (b : UInt8) :
    (edit line b).reverse = typed line.reverse b := by
  unfold edit typed
  split_ifs with fed erased
  · rfl
  · exact List.dropLast_reverse.symm
  · exact List.reverse_cons

theorem reverse_editAll (line : List Char) (bytes : List UInt8) :
    (editAll line bytes).reverse = bytes.foldl typed line.reverse := by
  induction bytes generalizing line with
  | nil => rfl
  | cons b bytes ih =>
    rw [List.foldl_cons, ← reverse_edit]
    exact ih (edit line b)

/-- The line behind some bytes, as an editor keeps it. -/
def lineAfter (bytes : Bytes) : List Char := editAll [] bytes.toList

theorem editAll_lineAfter (before bytes : Bytes) :
    editAll (lineAfter before) bytes.toList = lineAfter (before ++ bytes) := by
  rw [lineAfter, lineAfter, editAll, editAll, editAll, Array.toList_append, List.foldl_append]

theorem text_lineAfter (bytes : Bytes) : text (lineAfter bytes) = edited bytes := by
  rw [text, lineAfter, reverse_editAll]
  rfl

theorem endsWith_iff (awaited : String) (line : List Char) :
    endsWith awaited line = true ↔ awaited.toList <:+ (text line).toList := by
  rw [endsWith, List.isPrefixOf_iff_prefix, text, String.toList_ofList, ← List.reverse_prefix,
    List.reverse_reverse]

theorem toNat_character (b : UInt8) : (character b).toNat = b.toNat := by
  have valid : b.toNat.isValidChar := Or.inl (by have := b.toNat_lt; omega)
  rw [character, Char.ofNat, dif_pos valid]
  rfl

theorem character_injective {b b' : UInt8} (h : character b = character b') : b = b' := by
  rw [← UInt8.toNat_inj, ← toNat_character, ← toNat_character, h]

/-- What edits a line never gets into it. -/
theorem not_mem_editAll {b : UInt8} (editing : b = lineFeed ∨ b = backspace) {line : List Char}
    (absent : character b ∉ line) (bytes : List UInt8) : character b ∉ editAll line bytes := by
  induction bytes generalizing line with
  | nil => exact absent
  | cons b' bytes ih =>
    refine ih ?_
    unfold edit
    split_ifs with fed erased
    · exact List.not_mem_nil
    · exact fun mem => absent (List.mem_of_mem_tail mem)
    · rw [List.mem_cons]
      rintro (same | mem)
      · rw [← character_injective same] at fed erased
        exact editing.elim fed erased
      · exact absent mem

theorem not_mem_edited {b : UInt8} (editing : b = lineFeed ∨ b = backspace) (bytes : Bytes) :
    character b ∉ (edited bytes).toList := by
  rw [← text_lineAfter, text, String.toList_ofList, List.mem_reverse]
  exact not_mem_editAll editing List.not_mem_nil bytes.toList

end LineEditor

namespace Monitor

open LineEditor

/-! ## Reads -/

/-- The bytes leave a line that ends with the prompt. -/
def Prompts (awaited : String) (bytes : Bytes) : Prop :=
  awaited.toList <:+ (edited bytes).toList

instance (awaited : String) (bytes : Bytes) : Decidable (Prompts awaited bytes) :=
  inferInstanceAs (Decidable (awaited.toList <:+ _))

/-- The read leaves a response open behind the bytes before it: it was interrupted, or there is no
prompt yet. -/
def GoesOn (awaited : String) (before : Bytes) : Reading → Prop
  | .ok chunk => chunk.size ≠ 0 ∧ ¬ Prompts awaited (before ++ chunk)
  | .error e => e.kind = .interrupted

/-- The read closes a response behind the bytes before it.  The prompt, the end of the stream and a
far end that keeps silent leave the line as it is, and any other error is the outcome. -/
def Closes (awaited : String) (before : Bytes) : Reading → Except Error String → Prop
  | .ok chunk, outcome =>
    (chunk.size = 0 ∨ Prompts awaited (before ++ chunk)) ∧ outcome = .ok (edited (before ++ chunk))
  | .error e, outcome =>
    if e.kind = .timedOut ∨ e.kind = .wouldBlock then outcome = .ok (edited before)
    else e.kind ≠ .interrupted ∧ outcome = .error (.io e)

theorem goesOn_or_closes (awaited : String) (before : Bytes) (reading : Reading) :
    GoesOn awaited before reading ∨ ∃ outcome, Closes awaited before reading outcome := by
  cases reading with
  | ok chunk =>
    by_cases empty : chunk.size = 0
    · exact Or.inr ⟨_, Or.inl empty, rfl⟩
    · by_cases prompted : Prompts awaited (before ++ chunk)
      · exact Or.inr ⟨_, Or.inr prompted, rfl⟩
      · exact Or.inl ⟨empty, prompted⟩
  | error e =>
    by_cases interrupted : e.kind = .interrupted
    · exact Or.inl interrupted
    · by_cases silent : e.kind = .timedOut ∨ e.kind = .wouldBlock
      · exact Or.inr ⟨.ok (edited before), by rw [Closes, if_pos silent]⟩
      · exact Or.inr ⟨.error (.io e), by rw [Closes, if_neg silent]; exact ⟨interrupted, rfl⟩⟩

/-- Nothing more is to come of a line that is idle. -/
theorem closes_idle (awaited : String) (before : Bytes) (idle : Idle) :
    Closes awaited before idle.reading (.ok (edited before)) := by
  cases idle with
  | closed => exact ⟨Or.inl rfl, by rw [Array.append_empty]⟩
  | silent =>
    have silent : timeout.kind = .timedOut ∨ timeout.kind = .wouldBlock := Or.inl rfl
    rw [Idle.reading, Closes, if_pos silent]

theorem not_goesOn_idle (awaited : String) (before : Bytes) (idle : Idle) :
    ¬ GoesOn awaited before idle.reading := by
  cases idle with
  | closed => exact fun goesOn => goesOn.1 rfl
  | silent => exact nofun

/-- The reads are those of one response: all but the last leave it open behind the bytes before
them, and the last one closes it. -/
def Responds (awaited : String) (readings : List Reading) (outcome : Except Error String) : Prop :=
  ∃ opened last, readings = opened ++ [last] ∧
    (∀ front r back, opened = front ++ r :: back → GoesOn awaited (Reading.bytesOf front) r) ∧
    Closes awaited (Reading.bytesOf opened) last outcome

/-- Sooner or later a response is closed. -/
theorem exists_responds (awaited : String) (idle : Idle) (incoming : List Arrival) :
    ∃ readings rest outcome, Reads readSize idle incoming readings rest ∧
      Responds awaited readings outcome := by
  obtain ⟨opened, last, rest, reads, goOn, ends⟩ := Reads.exists_until
    (by decide : 0 < readSize) (fun front => GoesOn awaited (Reading.bytesOf front))
    (fun front => not_goesOn_idle awaited (Reading.bytesOf front) idle) incoming
  obtain ⟨outcome, closes⟩ :=
    (goesOn_or_closes awaited (Reading.bytesOf opened) last).resolve_left ends
  exact ⟨_, rest, outcome, reads, opened, last, rfl, goOn, closes⟩

section

variable {awaited : String} {before : Bytes} {reading : Reading} {readings : List Reading}
  {outcome : Except Error String}

/-- A response is the line that the bytes of its reads leave. -/
theorem Closes.eq_edited {line : String} (h : Closes awaited before reading (.ok line)) :
    line = edited (before ++ reading.bytes) := by
  cases reading with
  | ok chunk => exact Except.ok.inj h.2
  | error e =>
    rw [Closes] at h
    split_ifs at h
    · rw [Reading.bytes, Array.append_empty]
      exact Except.ok.inj h
    · exact absurd h.2 nofun

theorem Responds.eq_edited {line : String} (h : Responds awaited readings (.ok line)) :
    line = edited (Reading.bytesOf readings) := by
  obtain ⟨opened, last, rfl, -, closes⟩ := h
  rw [Reading.bytesOf_concat]
  exact closes.eq_edited

/-- A response breaks off with the error of a read only. -/
theorem Responds.eq_io {failure : Error} (h : Responds awaited readings (.error failure)) :
    ∃ e, failure = .io e := by
  obtain ⟨opened, last, rfl, -, closes⟩ := h
  cases last with
  | ok chunk => exact absurd closes.2 nofun
  | error e =>
    rw [Closes] at closes
    split_ifs at closes
    exact ⟨e, Except.error.inj closes.2⟩

end

/-! ## Reading a response -/

/-- Reading goes on behind a read. -/
def readBehind (echo : Bool) (awaited : String) (line : List Char) (l : Line) :
    Reading → Except Error String × Line
  | .error e =>
    if e.kind = .interrupted then readFrom echo awaited line l
    else if e.kind = .timedOut ∨ e.kind = .wouldBlock then (.ok (text line), l)
    else (.error (.io e), l)
  | .ok chunk =>
    if chunk.size = 0 then (.ok (text line), l)
    else
      let next := feed echo line l chunk.toList
      if endsWith awaited next.1 then (.ok (text next.1), next.2)
      else readFrom echo awaited next.1 next.2

section

variable (echo : Bool) {awaited : String} {before : Bytes} {l : Line} {reading : Reading}
  {rest : List Arrival} {outcome : Except Error String}

theorem readFrom_eq {line : List Char}
    (h : Arrival.next readSize l.idle l.incoming = (reading, rest)) :
    readFrom echo awaited line l = readBehind echo awaited line { l with incoming := rest } reading
    := by
  rw [Arrival.next] at h
  rw [readFrom]
  split
  · rename_i taken
    rw [taken, Option.getD_none, Prod.mk.injEq] at h
    obtain ⟨rfl, rfl⟩ := h
    show _ = readBehind echo awaited line l l.idle.reading
    cases l.idle with
    | closed => rfl
    | silent => rfl
  · rename_i e others taken
    rw [taken, Option.getD_some, Prod.mk.injEq] at h
    obtain ⟨rfl, rfl⟩ := h
    cases kind_eq : e.kind <;> simp [readBehind, kind_eq]
  · rename_i chunk others taken
    rw [taken, Option.getD_some, Prod.mk.injEq] at h
    obtain ⟨rfl, rfl⟩ := h
    rfl

/-- A read that leaves the response open adds its bytes. -/
theorem readFrom_of_goesOn (h : Arrival.next readSize l.idle l.incoming = (reading, rest))
    (goesOn : GoesOn awaited before reading) :
    ∃ events, readFrom echo awaited (lineAfter before) l =
      readFrom echo awaited (lineAfter (before ++ reading.bytes))
        { l with incoming := rest, events } := by
  rw [readFrom_eq echo h]
  cases reading with
  | error e =>
    refine ⟨l.events, ?_⟩
    rw [Reading.bytes, Array.append_empty]
    exact if_pos goesOn
  | ok chunk =>
    obtain ⟨filled, no_prompt⟩ := goesOn
    obtain ⟨events, fed⟩ := feed_eq echo (lineAfter before) { l with incoming := rest } chunk.toList
    rw [editAll_lineAfter] at fed
    have open_line : ¬ endsWith awaited (lineAfter (before ++ chunk)) = true := by
      rwa [endsWith_iff, text_lineAfter]
    refine ⟨events, ?_⟩
    rw [readBehind, if_neg filled, fed, if_neg open_line]
    rfl

/-- A read that closes the response gives its outcome. -/
theorem readFrom_of_closes (h : Arrival.next readSize l.idle l.incoming = (reading, rest))
    (closes : Closes awaited before reading outcome) :
    ∃ events, readFrom echo awaited (lineAfter before) l =
      (outcome, { l with incoming := rest, events }) := by
  rw [readFrom_eq echo h]
  cases reading with
  | error e =>
    refine ⟨l.events, ?_⟩
    rw [Closes] at closes
    split_ifs at closes with silent
    · have uninterrupted : e.kind ≠ .interrupted := by
        rcases silent with kind_eq | kind_eq <;> rw [kind_eq] <;> decide
      rw [readBehind, if_neg uninterrupted, if_pos silent, closes, text_lineAfter]
    · rw [readBehind, if_neg closes.1, if_neg silent, closes.2]
  | ok chunk =>
    obtain ⟨ended, rfl⟩ := closes
    by_cases empty : chunk.size = 0
    · refine ⟨l.events, ?_⟩
      rw [readBehind, if_pos empty, Array.eq_empty_of_size_eq_zero empty, Array.append_empty,
        text_lineAfter]
    · have prompted := ended.resolve_left empty
      obtain ⟨events, fed⟩ :=
        feed_eq echo (lineAfter before) { l with incoming := rest } chunk.toList
      rw [editAll_lineAfter] at fed
      have ended_line : endsWith awaited (lineAfter (before ++ chunk)) = true := by
        rwa [endsWith_iff, text_lineAfter]
      refine ⟨events, ?_⟩
      rw [readBehind, if_neg empty, fed, if_pos ended_line, text_lineAfter]

/-- Reads that leave the response open add all their bytes. -/
theorem readFrom_of_reads (before : Bytes) {readings : List Reading}
    (reads : Reads readSize l.idle l.incoming readings rest)
    (goOn : ∀ front r back, readings = front ++ r :: back →
      GoesOn awaited (before ++ Reading.bytesOf front) r) :
    ∃ events, readFrom echo awaited (lineAfter before) l =
      readFrom echo awaited (lineAfter (before ++ Reading.bytesOf readings))
        { l with incoming := rest, events } := by
  induction readings generalizing l before with
  | nil =>
    cases reads
    exact ⟨l.events, by rw [Reading.bytesOf_nil, Array.append_empty]⟩
  | cons reading readings ih =>
    cases reads with
    | cons next_eq reads =>
      have goesOn : GoesOn awaited before reading := by
        simpa using goOn [] reading readings rfl
      obtain ⟨events, step⟩ := readFrom_of_goesOn echo next_eq goesOn
      obtain ⟨events', run⟩ := ih (l := { l with incoming := _, events }) (before ++ reading.bytes)
        reads fun front r back split_eq => by
          rw [Array.append_assoc, ← Reading.bytesOf_cons]
          exact goOn (reading :: front) r back (congrArg (reading :: ·) split_eq)
      exact ⟨events', by rw [step, run, Reading.bytesOf_cons, Array.append_assoc]⟩

/-- The reads of a response give its outcome, and no further reads are made. -/
theorem readResponse_of_responds {readings : List Reading}
    (reads : Reads readSize l.idle l.incoming readings rest)
    (responds : Responds awaited readings outcome) :
    ∃ events, readResponse echo awaited l = (outcome, { l with incoming := rest, events }) := by
  obtain ⟨opened, last, rfl, goOn, closes⟩ := responds
  obtain ⟨between, reads, last_read⟩ := reads.of_append
  obtain ⟨events, run⟩ := readFrom_of_reads echo #[] reads
    fun front r back split_eq => by
      rw [Array.empty_append]
      exact goOn front r back split_eq
  rw [Array.empty_append] at run
  obtain ⟨events', step⟩ := readFrom_of_closes echo
    (l := { l with incoming := between, events }) last_read.next_of_singleton closes
  exact ⟨events', run.trans step⟩

/-- What arrives tells what a response comes to, and what it leaves. -/
theorem Responds.unique {idle : Idle} {incoming rest' : List Arrival}
    {readings readings' : List Reading} {outcome' : Except Error String}
    (responds : Responds awaited readings outcome)
    (reads : Reads readSize idle incoming readings rest)
    (reads' : Reads readSize idle incoming readings' rest')
    (responds' : Responds awaited readings' outcome') : outcome = outcome' ∧ rest = rest' := by
  obtain ⟨events, read⟩ := readResponse_of_responds false (l := { incoming, idle }) reads responds
  obtain ⟨events', read'⟩ :=
    readResponse_of_responds false (l := { incoming, idle }) reads' responds'
  obtain ⟨rfl, line_eq⟩ := Prod.mk.inj (read.symm.trans read')
  exact ⟨rfl, congrArg Line.incoming line_eq⟩

/-! ## Cuttings -/

/-- The bytes up to the first prompt are those of one response, in whatever pieces they are read. -/
theorem responds_of_cutting {pieces : List Bytes} (some_piece : pieces ≠ [])
    (filled : ∀ p ∈ pieces, p.size ≠ 0) (prompted : Prompts awaited (Bytes.join pieces))
    (first : ∀ n < (Bytes.join pieces).size, 0 < n →
      ¬ Prompts awaited ((Bytes.join pieces).extract 0 n)) :
    Responds awaited (pieces.map .ok) (.ok (edited (Bytes.join pieces))) := by
  obtain ⟨opened, last, rfl⟩ : ∃ opened last, pieces = opened ++ [last] :=
    ⟨_, _, (List.dropLast_concat_getLast some_piece).symm⟩
  have last_filled := filled last (by simp)
  rw [Bytes.join_concat] at prompted first ⊢
  refine ⟨opened.map .ok, .ok last, List.map_append, fun front r back split_eq => ?_, ?_⟩
  · obtain ⟨front, others, rfl, rfl, others_eq⟩ := List.map_eq_append_iff.1 split_eq
    obtain ⟨piece, back, rfl, rfl, rfl⟩ := List.map_eq_cons_iff.1 others_eq
    have piece_filled := filled piece (by simp)
    refine ⟨piece_filled, ?_⟩
    -- what has been read up to here is a proper part of all bytes
    have part_eq : Reading.bytesOf (front.map .ok) ++ piece =
        (Bytes.join (front ++ piece :: back) ++ last).extract 0
          (Bytes.join front ++ piece).size := by
      rw [Reading.bytesOf_ok, Bytes.join_append, Bytes.join_cons, ← Array.append_assoc,
        Array.append_assoc, Array.extract_append_left, Array.extract_size]
    rw [part_eq]
    refine first _ ?_ ?_
    · simp only [Bytes.join_append, Bytes.join_cons, Array.size_append]
      omega
    · rw [Array.size_append]
      omega
  · rw [Reading.bytesOf_ok]
    exact ⟨Or.inr prompted, rfl⟩

/-- Nothing at all is the response of a far end that sends nothing. -/
theorem responds_idle (awaited : String) (idle : Idle) :
    Responds awaited [idle.reading] (.ok (edited #[])) :=
  ⟨[], idle.reading, rfl, by simp, closes_idle awaited #[] idle⟩

end

/-- Reading a response makes the reads of one response, no further ones, and gives what they come
to.  A response that is not broken off is the line that the bytes of all its reads leave, and holds
no line feed and no backspace.  Bytes that end with their first prompt are read to their end, and no
further, in whatever pieces they come; no bytes at all are read so if nothing else is to come. -/
theorem readResponse_closes (echo : Bool) (awaited : String) (l : Line) :
    ∃ readings rest outcome events,
      readResponse echo awaited l = (outcome, { l with incoming := rest, events }) ∧
      Reads readSize l.idle l.incoming readings rest ∧ Responds awaited readings outcome ∧
      (∀ line, outcome = .ok line → line = edited (Reading.bytesOf readings) ∧
        '\n' ∉ line.toList ∧ '\x08' ∉ line.toList) ∧
      ∀ pieces left, Reads readSize l.idle l.incoming (pieces.map .ok) left →
        (∀ p ∈ pieces, p.size ≠ 0) → (pieces ≠ [] ∨ left = []) →
        Prompts awaited (Bytes.join pieces) →
        (∀ n < (Bytes.join pieces).size, 0 < n →
          ¬ Prompts awaited ((Bytes.join pieces).extract 0 n)) →
        outcome = .ok (edited (Bytes.join pieces)) ∧ rest = left := by
  obtain ⟨readings, rest, outcome, reads, responds⟩ := exists_responds awaited l.idle l.incoming
  obtain ⟨events, read⟩ := readResponse_of_responds echo reads responds
  refine ⟨readings, rest, outcome, events, read, reads, responds, ?_, ?_⟩
  · rintro line rfl
    rw [responds.eq_edited]
    exact ⟨rfl, not_mem_edited (Or.inl rfl) _, not_mem_edited (Or.inr rfl) _⟩
  · intro pieces left piece_reads filled more prompted first
    by_cases some_piece : pieces = []
    · obtain rfl := some_piece
      obtain rfl := more.resolve_left (not_not_intro rfl)
      have nothing : l.incoming = [] := Reads.eq_of_nil piece_reads
      rw [nothing] at reads
      exact responds.unique reads (.cons rfl (.nil [])) (responds_idle awaited l.idle)
    · exact responds.unique reads piece_reads
        (responds_of_cutting some_piece filled prompted first)

/-- A prompt behind a finished line and an erased character, cut into three reads. -/
theorem readResponse_closes_in_pieces : ∃ outcome l',
    readResponse true "> " { incoming := [.data #[0x7C, 0x0A, 0x2F, 0x08], .data #[0x3E],
      .data #[0x20], .data #[0x3E]] } = (outcome, l') ∧
    outcome = .ok "> " ∧ l'.incoming = [.data #[0x3E]] := by
  let pieces : List Bytes := [#[0x7C, 0x0A, 0x2F, 0x08], #[0x3E], #[0x20]]
  let l : Line := { incoming := pieces.map .data ++ [.data #[0x3E]] }
  obtain ⟨readings, rest, outcome, events, read, -, -, -, cut⟩ := readResponse_closes true "> " l
  have reads : Reads readSize l.idle l.incoming (pieces.map .ok) [.data #[0x3E]] :=
    .cons rfl (.cons rfl (.cons rfl (.nil _)))
  obtain ⟨outcome_eq, rfl⟩ := cut pieces _ reads (by decide) (Or.inl (by decide)) (by decide)
    (by decide)
  exact ⟨outcome, _, read, outcome_eq, rfl⟩

end Monitor

end BareMetal.Target

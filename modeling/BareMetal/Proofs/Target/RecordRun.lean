import BareMetal.Proofs.Target.StartRecord
import BareMetal.Proofs.Target.Writing
import BareMetal.Proofs.Text.Lines
import Mathlib.Data.List.Forall2

/-!
# Sending records

The records of a text go out in turn, each with a line end behind it, and one more line end follows
(`stream`, `sends_send`).  No record holds a line feed, so whoever cuts the stream at its line ends
has the records again (`finishedLines_stream`).  The counter of the records overflows only if there
are too many of them (`sendCounted_eq`, `sendCounted_overflow_iff`).  The start address is the last
one among the records, and if a write fails the stream is broken off there (`send_delivers`).
-/

namespace BareMetal.Target.Records

/-! ## The stream and its lines -/

/-- The bytes of a record. -/
def bytesOf (record : List Char) : Bytes := Bytes.ofText (String.ofList record)

/-- Records as they are sent: each with a line end behind it, and one more line end. -/
def stream (records : List (List Char)) : Bytes :=
  Bytes.join (records.map fun record => bytesOf record ++ lineEnd) ++ lineEnd

/-- The lines in some bytes that end with a carriage return and a line feed, and what stands behind
the last of them. -/
def finishedLines : List UInt8 → List (List UInt8) × List UInt8
  | [] => ([], [])
  | [b] => ([], [b])
  | a :: b :: rest =>
    if a = 0x0D ∧ b = 0x0A then ([] :: (finishedLines rest).1, (finishedLines rest).2)
    else match finishedLines (b :: rest) with
      | ([], behind) => ([], a :: behind)
      | (line :: lines, behind) => ((a :: line) :: lines, behind)

theorem finishedLines_append {line : List UInt8} (h : 0x0A ∉ line) (rest : List UInt8) :
    finishedLines (line ++ 0x0D :: 0x0A :: rest) =
      (line :: (finishedLines rest).1, (finishedLines rest).2) := by
  induction line with
  | nil => rfl
  | cons a line ih =>
    rw [List.mem_cons, not_or] at h
    -- the byte behind `a` is one of the line or the carriage return, and no line feed
    obtain ⟨b, more, behind_eq, other⟩ : ∃ b more,
        line ++ 0x0D :: 0x0A :: rest = b :: more ∧ b ≠ 0x0A := by
      cases line with
      | nil => exact ⟨_, _, rfl, by decide⟩
      | cons b line => exact ⟨b, _, rfl, fun same => h.2 (by simp [same])⟩
    rw [List.cons_append, behind_eq, finishedLines, if_neg (fun ends => other ends.2), ← behind_eq,
      ih h.2]

theorem toList_bytesOf (record : List Char) : (bytesOf record).toList = Utf8.encode record := by
  rw [bytesOf, Utf8.toList_ofText, String.toList_ofList]

theorem stream_cons (record : List Char) (records : List (List Char)) :
    stream (record :: records) = bytesOf record ++ lineEnd ++ stream records := by
  rw [stream, stream, List.map_cons, Bytes.join_cons, Array.append_assoc]

theorem toList_stream (records : List (List Char)) : (stream records).toList =
    records.flatMap (fun record => Utf8.encode record ++ [0x0D, 0x0A]) ++ [0x0D, 0x0A] := by
  induction records with
  | nil => rfl
  | cons record records ih =>
    rw [stream_cons, Array.toList_append, Array.toList_append, toList_bytesOf, ih,
      List.flatMap_cons, List.append_assoc (_ ++ _)]
    rfl

/-- Records without line feeds are the lines of the stream that they make up, before an empty
one. -/
theorem finishedLines_stream {records : List (List Char)} (one_line : ∀ r ∈ records, '\n' ∉ r) :
    finishedLines (stream records).toList = (records.map Utf8.encode ++ [[]], []) := by
  rw [toList_stream]
  induction records with
  | nil => rfl
  | cons record records ih =>
    rw [List.forall_mem_cons] at one_line
    have no_feed : 0x0A ∉ Utf8.encode record := Utf8.notMem_encode (by decide) one_line.1
    rw [List.flatMap_cons, List.append_assoc, List.append_assoc, List.cons_append, List.cons_append,
      List.nil_append, finishedLines_append no_feed, ih one_line.2]
    rfl

/-! ## Sending -/

/-- The pieces in which records are written. -/
def pieces (records : List (List Char)) : List Bytes :=
  records.flatMap (fun record => [bytesOf record, lineEnd]) ++ [lineEnd]

theorem join_pieces (records : List (List Char)) :
    Bytes.join (pieces records) = stream records := by
  induction records with
  | nil => rfl
  | cons record records ih =>
    rw [stream_cons, ← ih, Array.append_assoc]
    rfl

/-- The last start address among some records. -/
def lastStart (records : List (List Char)) : Option UInt32 :=
  (records.filterMap startAddress).getLast?

theorem lastStart_cons (record : List Char) (records : List (List Char)) :
    lastStart (record :: records) = (lastStart records).or (startAddress record) := by
  unfold lastStart
  cases found : startAddress record with
  | none => rw [List.filterMap_cons_none found, Option.or_none]
  | some a =>
    rw [List.filterMap_cons_some found, List.getLast?_cons]
    cases (records.filterMap startAddress).getLast? <;> rfl

/-- What is shown for a record. -/
def shownFor (record : List Char) : List Event := .progress :: warnings record

theorem sends_sendAll (start : Option UInt32) (records : List (List Char)) :
    (sendAll start records).Sends (records.flatMap fun record => [bytesOf record, lineEnd])
      (records.flatMap shownFor) ((lastStart records).or start) := by
  induction records generalizing start with
  | nil => exact Talk.sends_pure start
  | cons record records ih =>
    rw [lastStart_cons, Option.or_assoc]
    exact (Talk.sends_writeLine _ _).bind ((Talk.sends_emit .progress).bind
      ((Talk.sends_emitAll (warnings record)).bind (ih _)))

/-- What is shown at the end. -/
def summary (count : Nat) : Event :=
  .log {
    level := .debug
    target := "sweetada_link::srecord"
    message := "Sent " ++ Numeral.decimal count ++ " records" }

theorem sends_finish (count : Nat) : (finish count).Sends [lineEnd] [summary count] () :=
  (Talk.sends_write lineEnd).bind (Talk.sends_flush.bind (Talk.sends_emit (summary count)))

/-- The records of a text are written in turn, and a line end behind them. -/
theorem sends_send (text : String) : (send text).Sends (pieces (ofText text))
    ((ofText text).flatMap shownFor ++ [summary (ofText text).length])
    (lastStart (ofText text)) := by
  have all := sends_sendAll none (ofText text)
  rw [Option.or_none] at all
  exact all.bind ((sends_finish _).bind (Talk.sends_pure _))

theorem count_progress_warnings (record : List Char) :
    (warnings record).count .progress = 0 := by
  unfold warnings
  split
  · split <;> simp
  · rfl

/-- There is one step of progress for each record. -/
theorem count_progress (records : List (List Char)) :
    (records.flatMap shownFor ++ [summary records.length]).count .progress = records.length := by
  have each (record : List Char) : (shownFor record).count .progress = 1 := by
    rw [shownFor, List.count_cons_self, count_progress_warnings]
  have last : [summary records.length].count .progress = 0 := by simp [summary]
  rw [List.count_append, last, Nat.add_zero, List.count_flatMap]
  simp [Function.comp_def, each]

/-! ## The counter -/

theorem sendAllCounted_eq (start : Option UInt32) {count : Nat} {records : List (List Char)}
    (few : count + records.length < counterBound) : sendAllCounted start count records =
      (fun last => .ok (last, count + records.length)) <$> sendAll start records := by
  induction records generalizing start count with
  | nil => rfl
  | cons record records ih =>
    rw [List.length_cons, ← Nat.add_assoc, Nat.add_right_comm] at few ⊢
    have room : count + 1 < counterBound := Nat.lt_of_le_of_lt (Nat.le_add_right _ _) few
    simp only [sendAllCounted, sendAll, if_pos room, ih _ few, map_bind]

/-- With too many records the counter overflows behind one of them. -/
theorem sends_sendAllCounted_overflow (start : Option UInt32) {count : Nat}
    {records : List (List Char)} (below : count < counterBound)
    (many : counterBound ≤ count + records.length) :
    ∃ pieces shown, (sendAllCounted start count records).Sends pieces shown (.error .overflow) := by
  induction records generalizing start count with
  | nil => exact absurd (Nat.lt_of_lt_of_le below many) (Nat.lt_irrefl count)
  | cons record records ih =>
    rw [List.length_cons, ← Nat.add_assoc, Nat.add_right_comm] at many
    by_cases room : count + 1 < counterBound
    · obtain ⟨pieces, shown, others_sent⟩ :=
        ih ((startAddress record).or start) room many
      simp only [sendAllCounted, if_pos room]
      exact ⟨_, _, (Talk.sends_writeLine _ _).bind ((Talk.sends_emit .progress).bind
        ((Talk.sends_emitAll (warnings record)).bind others_sent))⟩
    · simp only [sendAllCounted, if_neg room]
      exact ⟨_, _, (Talk.sends_writeLine _ _).bind ((Talk.sends_emit .progress).bind
        (Talk.sends_pure _))⟩

/-- Records that can be counted are sent as if they were not counted. -/
theorem sendCounted_eq {text : String} (few : (ofText text).length < counterBound) :
    sendCounted text = Except.ok <$> send text := by
  have from_zero : 0 + (ofText text).length < counterBound := by rwa [Nat.zero_add]
  have counted := sendAllCounted_eq none from_zero
  rw [Nat.zero_add] at counted
  rw [sendCounted, counted, send]
  simp only [map_bind, bind_map_left, map_pure]

/-- Where all is taken, the counter overflows if and only if there are too many records for it. -/
theorem sendCounted_overflow_iff {text : String} {l : Line} (h : l.Accepting) :
    (∃ l', sendCounted text l = (.ok (.error .overflow), l')) ↔
      counterBound ≤ (ofText text).length := by
  constructor
  · rintro ⟨l', overflow⟩
    by_contra few
    obtain ⟨failure, l'', writes, run_eq, -⟩ := sends_send text l
    obtain rfl := writes.of_accepting h
    rw [sendCounted_eq (Nat.lt_of_not_le few), Outcome.map_of_ok run_eq] at overflow
    cases overflow
  · intro many
    have from_zero : counterBound ≤ 0 + (ofText text).length := by rwa [Nat.zero_add]
    obtain ⟨pieces, shown, sends⟩ := sends_sendAllCounted_overflow none (by decide) from_zero
    obtain ⟨failure, l', writes, run_eq, -⟩ := sends l
    obtain rfl := writes.of_accepting h
    refine ⟨l', ?_⟩
    rw [sendCounted, Outcome.bind_of_ok run_eq]
    rfl

/-- The records of a text are its lines, trimmed. -/
theorem eq_ofText_iff {text : String} {records : List (List Char)} : records = ofText text ↔
    ∃ lines, Text.Lined text.toList lines ∧ List.Forall₂ Text.Trims lines records := by
  constructor
  · rintro rfl
    refine ⟨_, Text.lined_lines text.toList, ?_⟩
    rw [ofText, List.forall₂_map_right_iff]
    exact List.forall₂_same.2 fun line _ => Text.trims_trim line
  · rintro ⟨lines, lined, trimmed⟩
    obtain rfl := lined.eq_lines
    have same : List.Forall₂ (fun line record => Text.trim line = record) _ records :=
      trimmed.imp fun _ _ trims => trims.eq_trim.symm
    rw [← List.forall₂_map_left_iff, List.forall₂_eq_eq_eq] at same
    exact same.symm

/-- No record of a text holds a line feed. -/
theorem notMem_of_mem_ofText {text : String} {record : List Char} (mem : record ∈ ofText text) :
    '\n' ∉ record := by
  obtain ⟨line, line_mem, rfl⟩ := List.mem_map.1 mem
  exact fun feed => (Text.lined_lines text.toList).notMem line_mem
    ((Text.trims_trim line).isInfix.subset feed)

/-- The lines of any text, each without the blanks at its ends, are written with a line end behind
each and one more line end.  Who cuts what is written at its line ends has them again, and an empty
one behind them.  The start address is the last one among them; one with a character across a cut
has none.  Counting the lines on the way changes nothing if there are fewer than 2^31, and where all
is taken the counter overflows if and only if there are not.  Where all is taken, no write fails,
and there is a step of progress for each line.  If a write fails, then with its error, and a
beginning of the bytes has been written but not all of them: as many as there was room for. -/
theorem send_delivers (text : String) : ∃ lines records, Text.Lined text.toList lines ∧
    List.Forall₂ Text.Trims lines records ∧
    finishedLines (stream records).toList = (records.map Utf8.encode ++ [[]], []) ∧
    (∀ record n, Cut record n → Utf8.IsInside n record → startAddress record = none) ∧
    (lines.length < 2 ^ 31 → sendCounted text = Except.ok <$> send text) ∧
    (∀ l : Line, l.Accepting → ((∃ l', sendCounted text l = (.ok (.error .overflow), l')) ↔
      2 ^ 31 ≤ lines.length)) ∧
    ∀ l : Line, ∃ failure l', l.Writes (pieces records) failure l' ∧
      send text l = (Talk.outcome (records.filterMap startAddress).getLast? failure, l') ∧
      (l.Accepting → failure = none) ∧
      (failure = none → l'.written = l.written ++ stream records ∧
        ∃ shown, l'.events = l.events ++ shown ∧ shown.count .progress = lines.length) ∧
      (∀ e, failure = some e → ∃ sent unsent, stream records = sent ++ unsent ∧ unsent ≠ #[] ∧
        l'.written = l.written ++ sent) ∧
      ∀ room e, l.BreaksOff room e → room < (stream records).size →
        failure = some e ∧ l'.written = l.written ++ (stream records).extract 0 room := by
  obtain ⟨lines, lined, trimmed⟩ := eq_ofText_iff.1 (rfl : ofText text = ofText text)
  have one_line : ∀ record ∈ ofText text, '\n' ∉ record := fun _ => notMem_of_mem_ofText
  have count_eq : (ofText text).length = lines.length := trimmed.length_eq.symm
  refine ⟨lines, ofText text, lined, trimmed, finishedLines_stream one_line,
    fun record n cut inside => ?_, fun few => sendCounted_eq (count_eq.trans_lt few),
    fun l accepting => count_eq ▸ sendCounted_overflow_iff accepting, fun l => ?_⟩
  · rw [startAddress, addressField?_of_isInside cut inside, Option.bind_none]
  obtain ⟨failure, l', writes, run_eq, events_eq⟩ := sends_send text l
  have broken (e : IoError) (failed : failure = some e) : ∃ sent unsent,
      stream (ofText text) = sent ++ unsent ∧ unsent ≠ #[] ∧ l'.written = l.written ++ sent := by
    subst failed
    rw [← join_pieces]
    exact writes.written_of_failure
  refine ⟨failure, l', writes, run_eq, writes.of_accepting, fun all => ?_, broken,
    fun room e breaks short => ?_⟩
  · refine ⟨?_, _, events_eq all, ?_⟩
    · subst all
      rw [writes.written_eq, join_pieces]
    · rw [List.count_toArray, count_progress, trimmed.length_eq]
  · rw [← join_pieces] at short
    obtain ⟨failed, size_eq⟩ := writes.of_breaksOff breaks short
    obtain ⟨sent, unsent, stream_eq, -, written_eq⟩ := broken e failed
    have sent_size : sent.size = room := by
      rw [written_eq, Array.size_append] at size_eq
      omega
    refine ⟨failed, ?_⟩
    rw [written_eq, stream_eq, ← sent_size, Array.extract_append_left, Array.extract_size]

/-- Four lines with all kinds of ends, the last of them with a character across the end of its
address. -/
def mixedEnds : String := "S00é\rx\r\n\n  S70500008000FA \nS903000é"

theorem ofText_mixedEnds : ofText mixedEnds =
    ["S00é\rx".toList, [], "S70500008000FA".toList, "S903000é".toList] := by
  decide

/-- The four lines go out whole, or up to the middle of a character. -/
theorem send_delivers_of_mixedEnds :
    (∃ l', send mixedEnds {} = (.ok (some 0x8000), l') ∧
      sendCounted mixedEnds {} = (.ok (.ok (some 0x8000)), l') ∧
      l'.written = Bytes.ofText "S00é\rx\r\n\r\nS70500008000FA\r\nS903000é\r\n\r\n" ∧
      l'.events.count .progress = 4) ∧
    ∃ l', send mixedEnds { writeError := some (4, timeout), maxWrite := some 3 } =
      (.error (.io timeout), l') ∧ l'.written = #[0x53, 0x30, 0x30, 0xC3] := by
  obtain ⟨lines, records, lined, trimmed, -, -, counted, -, sends⟩ := send_delivers mixedEnds
  obtain rfl := eq_ofText_iff.2 ⟨lines, lined, trimmed⟩
  have four : lines.length = 4 := by
    rw [trimmed.length_eq, ofText_mixedEnds]
    rfl
  constructor
  · obtain ⟨failure, l', -, run_eq, accepting, all, -⟩ := sends {}
    obtain rfl := accepting ⟨rfl, rfl, nofun, rfl⟩
    obtain ⟨written_eq, shown, events_eq, steps⟩ := all rfl
    have start_eq : ((ofText mixedEnds).filterMap startAddress).getLast? = some 0x8000 := by
      rw [ofText_mixedEnds]
      decide
    rw [start_eq] at run_eq
    have counted_eq : sendCounted mixedEnds {} = (.ok (.ok (some 0x8000)), l') := by
      rw [counted (by rw [four]; decide), Outcome.map_of_ok run_eq]
    refine ⟨l', run_eq, counted_eq, ?_, ?_⟩
    · rw [written_eq, Array.empty_append, ← Array.toList_inj, toList_stream, ofText_mixedEnds,
        Utf8.toList_ofText]
      decide
    · rw [events_eq, Array.empty_append, steps, four]
  · obtain ⟨failure, l', -, run_eq, -, -, -, breaks⟩ :=
      sends { writeError := some (4, timeout), maxWrite := some 3 }
    have short : 4 < (stream (ofText mixedEnds)).size := by
      rw [← Array.length_toList, toList_stream, ofText_mixedEnds]
      decide
    obtain ⟨rfl, written_eq⟩ := breaks 4 timeout ⟨rfl, nofun, rfl, rfl⟩ short
    refine ⟨l', run_eq, ?_⟩
    rw [written_eq, Array.empty_append, ← Array.toList_inj, Array.toList_extract, toList_stream,
      ofText_mixedEnds]
    decide

end BareMetal.Target.Records

import BareMetal.Proofs.Target.Cutting
import BareMetal.Proofs.Text.CharacterStarts

/-!
# What is shown of a response

A response is shown as it arrives, and what each read brings becomes text by itself.  So the bytes
on standard output are those of the response if and only if the reads cut it between characters
(`receive_shows`), and not for all cuttings of a text (`not_receive_shows_response`).
-/

namespace BareMetal.Target

/-- The bytes that an event puts on standard output. -/
def Event.shown : Event → Bytes
  | .console text => Bytes.ofText text
  | .log _ => #[]
  | .progress => #[]

/-- All that has been put on standard output. -/
def Line.console (l : Line) : Bytes := Bytes.join (l.events.toList.map Event.shown)

theorem Line.console_emit (l : Line) (e : Event) : (l.emit e).console = l.console ++ e.shown := by
  rw [console, emit, Array.toList_push, List.map_append, List.map_singleton, Bytes.join_concat]
  rfl

namespace DebugServer

/-- The bytes that are shown for a read. -/
def shownOf (chunk : Bytes) : Bytes := Bytes.ofText (Utf8.decodeLossy (content chunk).1)

section

variable {chunk : Bytes} {l : Line} {rest : List Arrival}

/-- A read that leaves the response open is shown. -/
theorem receiveRest_shows_of_goesOn (response : Bytes)
    (h : Arrival.next readSize l.idle l.incoming = (.ok chunk, rest)) (goesOn : GoesOn (.ok chunk)) :
    ∃ l', receiveRest true response l = receiveRest true (response ++ chunk) l' ∧
      l'.incoming = rest ∧ l'.console = l.console ++ shownOf chunk := by
  obtain ⟨filled, open_end⟩ := goesOn
  refine ⟨{ l with incoming := rest }.emit (.console (Utf8.decodeLossy chunk)), ?_, rfl, ?_⟩
  · rw [receiveRest_eq h, receiveBehind, if_neg filled, content_of_not_back open_end]
    rfl
  · rw [Line.console_emit, shownOf, content_of_not_back open_end]
    rfl

/-- A read that ends the response is shown without the terminator. -/
theorem receiveRest_shows_of_completes (response : Bytes)
    (h : Arrival.next readSize l.idle l.incoming = (.ok chunk, rest))
    (ends : chunk.back? = some terminator) :
    ∃ l', receiveRest true response l = (.ok (response ++ chunk.pop), l') ∧
      l'.incoming = rest ∧ l'.console = l.console ++ shownOf chunk := by
  have filled : chunk.size ≠ 0 := by
    intro empty
    rw [Array.eq_empty_of_size_eq_zero empty] at ends
    cases ends
  refine ⟨({ l with incoming := rest }.emit (.console (Utf8.decodeLossy chunk.pop))).emit
    (log ("OpenOCD -> " ++ Utf8.decodeLossy (response ++ chunk.pop))), ?_, rfl, ?_⟩
  · rw [receiveRest_eq h, receiveBehind, if_neg filled, content_of_back ends]
    rfl
  · rw [Line.console_emit, Line.console_emit, shownOf, content_of_back ends]
    exact Array.append_empty

/-- Every read of a response is shown by itself. -/
theorem receiveRest_shows (response : Bytes) {front : List Bytes} {last : Bytes}
    (incoming : l.incoming = (front ++ [last]).map .data)
    (small : ∀ p ∈ front ++ [last], p.size ≤ readSize) (goOn : ∀ p ∈ front, GoesOn (.ok p))
    (ends : last.back? = some terminator) :
    ∃ l', receiveRest true response l = (.ok (response ++ Bytes.join front ++ last.pop), l') ∧
      l'.incoming = [] ∧ l'.console = l.console ++ Bytes.join ((front ++ [last]).map shownOf) := by
  induction front generalizing response l with
  | nil =>
    have next_eq : Arrival.next readSize l.idle l.incoming = (.ok last, []) := by
      rw [incoming]
      exact Arrival.next_cons (a := .data last) (small last (by simp)) l.idle []
    obtain ⟨l', received, none_left, shown⟩ := receiveRest_shows_of_completes response next_eq ends
    exact ⟨l', by rw [received, Bytes.join_nil, Array.append_empty], none_left, by simp [shown]⟩
  | cons p front ih =>
    have next_eq : Arrival.next readSize l.idle l.incoming =
        (.ok p, (front ++ [last]).map .data) := by
      rw [incoming]
      exact Arrival.next_cons (a := .data p) (small p (by simp)) l.idle _
    obtain ⟨between, step, incoming', shown⟩ :=
      receiveRest_shows_of_goesOn response next_eq (goOn p (by simp))
    obtain ⟨l', received, none_left, shown'⟩ := ih (response ++ p) incoming'
      (fun q mem => small q (List.mem_cons_of_mem p mem)) (fun q mem => goOn q (by simp [mem]))
    refine ⟨l', ?_, none_left, ?_⟩
    · rw [step, received, Bytes.join_cons, ← Array.append_assoc]
    · rw [shown', shown, List.cons_append, List.map_cons, Bytes.join_cons, Array.append_assoc]

end

variable {response : Bytes} {pieces : List Bytes}

/-- A response that does not hold the terminator is received up to its end, and shown read by
read. -/
theorem Cutting.console_receive (cutting : Cutting (response.push terminator) pieces)
    (free : terminator ∉ response) (l : Line) :
    ∃ l', receive true (l.bringing pieces) = (.ok response, l') ∧ l'.incoming = [] ∧
      l'.console = l.console ++ Bytes.join (pieces.map shownOf) ∧
      Bytes.join (pieces.map fun p => (content p).1) = response := by
  obtain ⟨front, chunk, rfl, rfl⟩ := Bytes.exists_of_join_eq_push cutting.filled cutting.join_eq
  have open_ends : NoneEnds front := by
    intro p mem back_eq
    have in_front := Bytes.mem_join.2 ⟨p, mem, Array.mem_of_back? back_eq⟩
    exact free (Array.mem_append_left chunk in_front)
  have goOn : ∀ p ∈ front, GoesOn (.ok p) := fun p mem =>
    ⟨Nat.ne_of_gt (cutting.filled p (by simp [mem])), open_ends p mem⟩
  obtain ⟨l', received, none_left, shown⟩ :=
    receiveRest_shows #[] (l := l.bringing (front ++ [chunk.push terminator])) rfl cutting.small goOn
      Array.back?_push
  refine ⟨l', ?_, none_left, shown, ?_⟩
  · rw [receive, received, Array.empty_append, Array.pop_push]
  · have contents : front.map (fun p => (content p).1) = front := by
      conv_rhs => rw [← List.map_id front]
      refine List.map_congr_left fun p mem => ?_
      rw [content_of_not_back (open_ends p mem), id]
    rw [List.map_append, List.map_singleton, Bytes.join_concat, contents,
      content_of_back Array.back?_push, Array.pop_push]

theorem Cutting.join_shownOf_eq_iff (cutting : Cutting (response.push terminator) pieces)
    (free : terminator ∉ response) (text : Utf8.IsText response) :
    Bytes.join (pieces.map shownOf) = response ↔ ∀ p ∈ pieces, Utf8.IsText (content p).1 := by
  obtain ⟨-, -, -, -, contents_eq⟩ := cutting.console_receive free {}
  have whole : Utf8.IsText (Bytes.join (pieces.map fun p => (content p).1)) := by
    rwa [contents_eq]
  have shown_iff := Utf8.join_ofText_decodeLossy_eq_iff whole
  rw [List.map_map, contents_eq, List.forall_mem_map] at shown_iff
  exact shown_iff

/-- A text that comes as a response is received whole, however it is cut into reads.  Standard
output gets the text of each read by itself, and these are together the response if and only if
every read brings whole characters. -/
theorem receive_shows (cutting : Cutting (response.push terminator) pieces)
    (free : terminator ∉ response) (text : Utf8.IsText response) (l : Line) :
    ∃ l', receive true (l.bringing pieces) = (.ok response, l') ∧ l'.incoming = [] ∧
      l'.console = l.console ++
        Bytes.join (pieces.map fun p => Bytes.ofText (Utf8.decodeLossy (content p).1)) ∧
      (l'.console = l.console ++ response ↔ ∀ p ∈ pieces, Utf8.IsText (content p).1) := by
  obtain ⟨l', received, none_left, shown, -⟩ := cutting.console_receive free l
  refine ⟨l', received, none_left, shown, ?_⟩
  rw [shown, Array.append_right_inj]
  exact cutting.join_shownOf_eq_iff free text

/-- A character of two bytes that arrives in one read is shown as it is, behind what was shown
before. -/
theorem receive_shows_whole_character :
    Utf8.IsText #[0xC3, 0xA9] ∧
    ∃ l', receive true (Line.bringing { events := #[.console "> "] } [#[0xC3, 0xA9], #[terminator]]) =
        (.ok #[0xC3, 0xA9], l') ∧
      l'.console = Bytes.ofText "> é" := by
  have text : Utf8.IsText #[0xC3, 0xA9] := ⟨"é", by decide⟩
  have cutting : Cutting (Array.push #[0xC3, 0xA9] terminator) [#[0xC3, 0xA9], #[terminator]] :=
    ⟨rfl, by decide, by decide⟩
  obtain ⟨l', received, -, -, shown_iff⟩ :=
    receive_shows cutting (by simp [terminator]) text { events := #[.console "> "] }
  refine ⟨text, l', received, (shown_iff.2 fun p mem => ?_).trans (by decide)⟩
  rcases List.mem_pair.1 mem with rfl | rfl
  · exact text
  · exact ⟨"", by decide⟩

/-- In two reads the same character is not shown. -/
theorem not_receive_shows_response : ¬ ∀ (response : Bytes) (pieces : List Bytes),
    Utf8.IsText response → terminator ∉ response → Cutting (response.push terminator) pieces →
      (receive true (Line.bringing {} pieces)).2.console = response := by
  intro shows
  have text : Utf8.IsText #[0xC3, 0xA9] := ⟨"é", by decide⟩
  have free : terminator ∉ (#[0xC3, 0xA9] : Bytes) := by simp [terminator]
  have cutting : Cutting (Array.push #[0xC3, 0xA9] terminator) [#[0xC3], #[0xA9, terminator]] :=
    ⟨rfl, by decide, by decide⟩
  obtain ⟨l', received, -, console_eq, -⟩ := cutting.console_receive free {}
  have shown := shows _ _ text free cutting
  rw [received] at shown
  have half_text : Utf8.IsText #[0xC3] :=
    (cutting.join_shownOf_eq_iff free text).1 (Array.empty_append.symm.trans
      (console_eq.symm.trans shown)) #[0xC3] (by simp)
  -- the first half of the character is read as nothing
  obtain ⟨cs, half_eq⟩ := Utf8.isText_iff.1 half_text
  have read_eq := Utf8.pieces_encode cs
  rw [← half_eq, Utf8.pieces_cons] at read_eq
  have broken : (Utf8.sequence 0xC3 []).1 = none := by decide
  rw [broken] at read_eq
  cases cs <;> cases read_eq

end DebugServer

end BareMetal.Target

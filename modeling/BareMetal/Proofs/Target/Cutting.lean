import BareMetal.Proofs.Target.Response
import Mathlib.Data.List.TakeWhile

/-!
# Streams cut into reads

A response is framed by reads: it is over when a read ends with the terminator, wherever else the
stream holds one.  So what is received depends on how the stream is cut
(`receive_depends_on_cutting`), and it is the bytes before the first terminator for just those
cuttings in which a read ends right behind it (`receive_of_cutting`).
-/

namespace BareMetal.Target

/-- The line when a stream arrives in some pieces and then ends. -/
def Line.bringing (l : Line) (pieces : List Bytes) : Line :=
  { l with incoming := pieces.map .data, idle := .closed }

namespace DebugServer

/-- The pieces are a stream, cut into reads that all get something. -/
structure Cutting (stream : Bytes) (pieces : List Bytes) : Prop where
  join_eq : Bytes.join pieces = stream
  filled : ∀ p ∈ pieces, 0 < p.size
  small : ∀ p ∈ pieces, p.size ≤ readSize

/-- The bytes before the first terminator. -/
def firstResponse (stream : Bytes) : Bytes := stream.takeWhile (· ≠ terminator)

/-- A read ends right behind the first terminator. -/
def EndsFirst (stream : Bytes) (pieces : List Bytes) : Prop :=
  ∃ front back, pieces = front ++ back ∧ Bytes.join front = (firstResponse stream).push terminator

/-- No read ends with the terminator. -/
def NoneEnds (pieces : List Bytes) : Prop := ∀ p ∈ pieces, p.back? ≠ some terminator

theorem terminator_not_mem_firstResponse (stream : Bytes) :
    terminator ∉ firstResponse stream := by
  rw [firstResponse, ← Array.mem_toList_iff, Array.toList_takeWhile]
  exact fun mem => by simpa using List.mem_takeWhile_imp mem

namespace Cutting

variable {stream : Bytes} {pieces front back : List Bytes} {last : Bytes} {echo : Bool} {l : Line}

/-- The first reads get the first pieces. -/
theorem reads (h : Cutting stream (front ++ back)) (idle : Idle) :
    Reads readSize idle ((front ++ back).map .data) (front.map .ok) (back.map .data) := by
  rw [List.map_append]
  exact Reads.of_pieces fun p mem => h.small p (List.mem_append_left back mem)

theorem goesOn (h : Cutting stream (front ++ back)) (open_ends : NoneEnds front) :
    ∀ r ∈ front.map Except.ok, GoesOn r := by
  intro r mem
  obtain ⟨p, p_mem, rfl⟩ := List.mem_map.1 mem
  exact ⟨Nat.ne_of_gt (h.filled p (List.mem_append_left back p_mem)), open_ends p p_mem⟩

/-- The first read that ends with the terminator ends the response. -/
theorem receive_eq_ok (h : Cutting stream (front ++ last :: back)) (open_ends : NoneEnds front)
    (ends : last.back? = some terminator) :
    (receive echo (l.bringing (front ++ last :: back))).1 = .ok (Bytes.join front ++ last.pop) := by
  have goOn := h.goesOn open_ends
  rw [← List.singleton_append, ← List.append_assoc] at h ⊢
  have answers : Answers ((front ++ [last]).map .ok) (Bytes.join front ++ last.pop) := by
    refine ⟨front.map .ok, .ok last, List.map_append, goOn, ends, ?_⟩
    obtain ⟨chunk, rfl⟩ := Array.back?_eq_some_iff.1 ends
    rw [Reading.bytesOf_ok, Bytes.join_concat, Array.pop_push, Array.append_push]
  obtain ⟨events, received⟩ : ∃ events, receive echo (l.bringing _) = _ :=
    receive_of_answers (h.reads .closed) answers
  rw [received]

/-- If no read ends with the terminator, the stream ends too early. -/
theorem receive_eq_error (h : Cutting stream pieces) (open_ends : NoneEnds pieces) :
    (receive echo (l.bringing pieces)).1 = .error .connectionClosed := by
  rw [← List.append_nil pieces] at h
  have goOn := h.goesOn open_ends
  have reads := (h.reads .closed).append (.cons rfl (.nil []))
  have brokenOff : BrokenOff (pieces.map .ok ++ [.ok #[]]) .connectionClosed :=
    ⟨pieces.map .ok, .ok #[], rfl, goOn, rfl, rfl⟩
  rw [List.append_nil] at reads
  obtain ⟨events, received⟩ : ∃ events, receive echo (l.bringing _) = _ :=
    receive_of_brokenOff reads brokenOff
  rw [received]

/-- A read that ends right behind the first terminator ends the response there. -/
theorem receive_of_endsFirst (h : Cutting stream pieces) (ends : EndsFirst stream pieces) :
    (receive echo (l.bringing pieces)).1 = .ok (firstResponse stream) := by
  obtain ⟨front, back, rfl, join_eq⟩ := ends
  obtain ⟨opened, chunk, rfl, opened_eq⟩ := Bytes.exists_of_join_eq_push
    (fun p mem => h.filled p (List.mem_append_left back mem)) join_eq
  have open_ends : NoneEnds opened := by
    intro p mem back_eq
    have in_opened := Bytes.mem_join.2 ⟨p, mem, Array.mem_of_back? back_eq⟩
    refine terminator_not_mem_firstResponse stream ?_
    rw [← opened_eq]
    exact Array.mem_append_left chunk in_opened
  rw [List.append_assoc, List.singleton_append] at h ⊢
  rw [h.receive_eq_ok open_ends Array.back?_push, Array.pop_push, opened_eq]

end Cutting

variable {stream : Bytes} {pieces : List Bytes}

/-- Some piece is the first that ends with the terminator, or none ends with it. -/
theorem noneEnds_or_exists_first (pieces : List Bytes) : NoneEnds pieces ∨
    ∃ front last back, pieces = front ++ last :: back ∧ NoneEnds front ∧
      last.back? = some terminator := by
  match found : pieces.find? (·.back? = some terminator) with
  | none => exact Or.inl fun p mem => by simpa using List.find?_eq_none.1 found p mem
  | some last =>
    obtain ⟨ends, front, back, rfl, before⟩ := List.find?_eq_some_iff_append.1 found
    exact Or.inr ⟨front, last, back, rfl, fun p mem => by simpa using before p mem,
      by simpa using ends⟩

/-- What is received of a stream that is cut into reads: the bytes up to the terminator at the end
of the first read that ends with one, and nothing if no read does.  These are the bytes before the
first terminator of the stream if and only if a read ends right behind it, so that two cuttings with
such a read agree. -/
theorem receive_of_cutting (h : Cutting stream pieces) (l : Line) (echo : Bool) :
    (∀ front last back, pieces = front ++ last :: back → NoneEnds front →
      last.back? = some terminator →
      (receive echo (l.bringing pieces)).1 = .ok (Bytes.join front ++ last.pop)) ∧
    (NoneEnds pieces → (receive echo (l.bringing pieces)).1 = .error .connectionClosed) ∧
    ((receive echo (l.bringing pieces)).1 = .ok (firstResponse stream) ↔ EndsFirst stream pieces) ∧
    ∀ pieces', Cutting stream pieces' → EndsFirst stream pieces → EndsFirst stream pieces' →
      ∀ l' echo', (receive echo (l.bringing pieces)).1 =
        (receive echo' (Line.bringing l' pieces')).1 := by
  refine ⟨?_, h.receive_eq_error, ⟨fun received => ?_, h.receive_of_endsFirst⟩, ?_⟩
  · rintro front last back rfl open_ends ends
    exact h.receive_eq_ok open_ends ends
  · rcases noneEnds_or_exists_first pieces with open_ends |
      ⟨front, last, back, rfl, open_ends, ends⟩
    · exact absurd ((h.receive_eq_error open_ends).symm.trans received) nofun
    · have response_eq := Except.ok.inj ((h.receive_eq_ok open_ends ends).symm.trans received)
      obtain ⟨chunk, rfl⟩ := Array.back?_eq_some_iff.1 ends
      refine ⟨front ++ [chunk.push terminator], back, by simp, ?_⟩
      rw [Bytes.join_concat, Array.append_push, ← response_eq, Array.pop_push]
  · intro pieces' h' ends ends' l' echo'
    rw [h.receive_of_endsFirst ends, h'.receive_of_endsFirst ends']

/-- A read that ends behind the first of two responses gives that response, and it does not matter
how the bytes before it arrive. -/
theorem receive_of_cutting_apart :
    (receive false (Line.bringing {} [#[0x61, terminator], #[0x62, terminator]])).1 = .ok #[0x61] ∧
    (receive false (Line.bringing {} [#[0x61, terminator], #[0x62, terminator]])).1 =
      (receive true (Line.bringing {} [#[0x61], #[terminator], #[0x62, terminator]])).1 := by
  let stream : Bytes := #[0x61, terminator, 0x62, terminator]
  have cutting : Cutting stream [#[0x61, terminator], #[0x62, terminator]] :=
    ⟨rfl, by decide, by decide⟩
  have finer : Cutting stream [#[0x61], #[terminator], #[0x62, terminator]] :=
    ⟨rfl, by decide, by decide⟩
  have first_eq : firstResponse stream = #[0x61] := by
    rw [firstResponse, ← Array.toList_inj, Array.toList_takeWhile]
    rfl
  obtain ⟨first, -, -, agree⟩ := receive_of_cutting cutting {} false
  refine ⟨first [] #[0x61, terminator] [#[0x62, terminator]] rfl nofun rfl,
    agree _ finer ⟨[#[0x61, terminator]], [#[0x62, terminator]], rfl, ?_⟩
      ⟨[#[0x61], #[terminator]], [#[0x62, terminator]], rfl, ?_⟩ {} true⟩
  · rw [first_eq]
    rfl
  · rw [first_eq]
    rfl

/-- In one read two responses behind each other are one, which holds a terminator. -/
theorem receive_depends_on_cutting : ¬ ∀ (stream : Bytes) (pieces pieces' : List Bytes),
    terminator ∈ stream → Cutting stream pieces → Cutting stream pieces' →
    (receive false (Line.bringing {} pieces)).1 = (receive false (Line.bringing {} pieces')).1 := by
  intro same
  have apart : Cutting #[0x61, terminator, 0x62, terminator]
      ([] ++ #[0x61, terminator] :: [#[0x62, terminator]]) := ⟨rfl, by decide, by decide⟩
  have together : Cutting #[0x61, terminator, 0x62, terminator]
      ([] ++ #[0x61, terminator, 0x62, terminator] :: []) := ⟨rfl, by decide, by decide⟩
  have agree := same _ _ _ (by simp) apart together
  rw [apart.receive_eq_ok nofun rfl, together.receive_eq_ok nofun rfl] at agree
  exact absurd agree (by decide)

end DebugServer

end BareMetal.Target

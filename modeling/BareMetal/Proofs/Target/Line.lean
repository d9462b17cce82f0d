import BareMetal.Target.Line
import BareMetal.Proofs.Pieces

/-!
# Reading from a line and writing to it

What a line has to give is met in reads (`Reads`), each of at most some number of bytes.  Sooner or
later a read is of the kind that is waited for, if the end of the stream and the silence of the far
end are (`Reads.exists_until`).  A line that accepts everything takes all that is written.
-/

namespace BareMetal.Target

/-! ## Reads -/

/-- What a read gets: some bytes, none at the end of the stream, or an error. -/
abbrev Reading := Except IoError Bytes

namespace Reading

/-- The bytes of a read. -/
def bytes : Reading → Bytes
  | .ok chunk => chunk
  | .error _ => #[]

/-- The bytes of some reads. -/
def bytesOf (readings : List Reading) : Bytes := Bytes.join (readings.map bytes)

@[simp] theorem bytesOf_nil : bytesOf [] = #[] := rfl

@[simp] theorem bytesOf_cons (reading : Reading) (readings : List Reading) :
    bytesOf (reading :: readings) = reading.bytes ++ bytesOf readings := rfl

theorem bytesOf_concat (readings : List Reading) (last : Reading) :
    bytesOf (readings ++ [last]) = bytesOf readings ++ last.bytes := by
  rw [bytesOf, List.map_append, List.map_singleton, Bytes.join_concat]
  rfl

theorem bytesOf_ok (pieces : List Bytes) : bytesOf (pieces.map .ok) = Bytes.join pieces := by
  rw [bytesOf, List.map_map]
  exact congrArg Bytes.join (List.map_id pieces)

end Reading

/-- What a read gets when nothing more arrives. -/
def Idle.reading : Idle → Reading
  | closed => .ok #[]
  | silent => .error timeout

/-- The next read of at most `limit` bytes, and what is still to come after it. -/
def Arrival.next (limit : Nat) (idle : Idle) (incoming : List Arrival) : Reading × List Arrival :=
  (Arrival.read? limit incoming).getD (idle.reading, incoming)

/-- What a read gets that takes the whole arrival. -/
def Arrival.reading : Arrival → Reading
  | data chunk => .ok chunk
  | failure e => .error e

/-- One read takes the whole arrival. -/
def Arrival.FitsRead (limit : Nat) : Arrival → Prop
  | data chunk => chunk.size ≤ limit
  | failure _ => True

theorem Arrival.next_cons {limit : Nat} {a : Arrival} (h : a.FitsRead limit) (idle : Idle)
    (rest : List Arrival) : next limit idle (a :: rest) = (a.reading, rest) := by
  cases a with
  | data chunk =>
    have fits : chunk.size ≤ limit := h
    rw [next, read?, if_pos fits]
    rfl
  | failure e => rfl

/-- Successive reads of at most `limit` bytes each, and what is still to come after them. -/
inductive Reads (limit : Nat) (idle : Idle) :
    List Arrival → List Reading → List Arrival → Prop
  | nil (incoming : List Arrival) : Reads limit idle incoming [] incoming
  | cons {incoming others rest : List Arrival} {reading : Reading} {readings : List Reading} :
    Arrival.next limit idle incoming = (reading, others) →
    Reads limit idle others readings rest → Reads limit idle incoming (reading :: readings) rest

namespace Reads

variable {limit : Nat} {idle : Idle} {incoming rest : List Arrival}

/-- Arrivals that reads can take are read one by one. -/
theorem of_fitsRead {arrivals : List Arrival} (h : ∀ a ∈ arrivals, a.FitsRead limit) :
    Reads limit idle (arrivals ++ rest) (arrivals.map Arrival.reading) rest := by
  induction arrivals with
  | nil => exact .nil rest
  | cons a arrivals ih =>
    exact .cons (Arrival.next_cons (h a (by simp)) idle _) (ih fun b mem => h b (by simp [mem]))

/-- Pieces that reads can take are read one by one. -/
theorem of_pieces {pieces : List Bytes} (small : ∀ p ∈ pieces, p.size ≤ limit) :
    Reads limit idle (pieces.map .data ++ rest) (pieces.map .ok) rest := by
  have fits : ∀ a ∈ pieces.map Arrival.data, a.FitsRead limit := by
    intro a mem
    obtain ⟨p, p_mem, rfl⟩ := List.mem_map.1 mem
    exact small p p_mem
  have reads : Reads limit idle _ _ rest := of_fitsRead fits
  rwa [List.map_map] at reads

theorem eq_of_nil (h : Reads limit idle incoming [] rest) : incoming = rest := by
  cases h
  rfl

theorem append {between : List Arrival} {readings others : List Reading}
    (first : Reads limit idle incoming readings between)
    (second : Reads limit idle between others rest) :
    Reads limit idle incoming (readings ++ others) rest := by
  induction first with
  | nil incoming => exact second
  | cons next_eq _ ih => exact .cons next_eq (ih second)

theorem of_append {readings others : List Reading}
    (h : Reads limit idle incoming (readings ++ others) rest) :
    ∃ between, Reads limit idle incoming readings between ∧
      Reads limit idle between others rest := by
  induction readings generalizing incoming with
  | nil => exact ⟨incoming, .nil incoming, h⟩
  | cons reading readings ih =>
    cases h with
    | cons next_eq reads =>
      obtain ⟨between, reads, after⟩ := ih reads
      exact ⟨between, .cons next_eq reads, after⟩

theorem next_of_singleton {reading : Reading} (h : Reads limit idle incoming [reading] rest) :
    Arrival.next limit idle incoming = (reading, rest) := by
  cases h with
  | cons next_eq done =>
    cases done
    exact next_eq

/-- Reads of any kind that depends on the reads before come to an end, unless the end of the stream
or the silence of the far end is of this kind. -/
theorem exists_until (positive : 0 < limit) (goesOn : List Reading → Reading → Prop)
    (stops : ∀ front, ¬ goesOn front idle.reading) (incoming : List Arrival) :
    ∃ opened last rest, Reads limit idle incoming (opened ++ [last]) rest ∧
      (∀ front r back, opened = front ++ r :: back → goesOn front r) ∧ ¬ goesOn opened last := by
  match taken : Arrival.read? limit incoming with
  | none =>
    have next_eq : Arrival.next limit idle incoming = (idle.reading, incoming) := by
      rw [Arrival.next, taken, Option.getD_none]
    exact ⟨[], idle.reading, incoming, .cons next_eq (.nil _), by simp, stops []⟩
  | some (reading, others) =>
    have next_eq : Arrival.next limit idle incoming = (reading, others) := by
      rw [Arrival.next, taken, Option.getD_some]
    by_cases first : goesOn [] reading
    · -- what is still to come weighs less after a read that got something
      have := Arrival.totalWeight_read? positive taken
      obtain ⟨opened, last, rest, reads, goOn, ends⟩ :=
        exists_until positive (fun front => goesOn (reading :: front)) (fun _ => stops _) others
      refine ⟨reading :: opened, last, rest, .cons next_eq reads, ?_, ends⟩
      intro front r back split_eq
      rcases List.cons_eq_append_iff.1 split_eq with ⟨rfl, tail_eq⟩ | ⟨front, rfl, tail_eq⟩
      · obtain ⟨rfl, -⟩ := List.cons.inj tail_eq
        exact first
      · exact goOn front r back tail_eq
    · exact ⟨[], reading, others, .cons next_eq (.nil _), by simp, first⟩
  termination_by Arrival.totalWeight incoming

end Reads

/-! ## Lines that take everything -/

/-- All that is written is taken, and nothing is to come but what is on its way already. -/
structure Line.Accepting (l : Line) : Prop where
  peer : l.peer = none
  writeError : l.writeError = none
  maxWrite : l.maxWrite ≠ some 0
  paused : l.paused = false

theorem Line.Accepting.accepts_eq {l : Line} (h : l.Accepting) (n : Nat) :
    l.accepts n = (n, none) := by
  simp [Line.accepts, h.paused, h.writeError, h.maxWrite]

theorem Talk.write_eq {l : Line} (h : l.Accepting) (bytes : Bytes) :
    Talk.write bytes l = (.ok (), { l with written := l.written ++ bytes }) := by
  simp only [Talk.write, h.accepts_eq, Line.deliver, h.peer]

end BareMetal.Target

import BareMetal.Bytes

/-!
# Arrivals

What comes from a far end, one read after the other: data in pieces of any size, or an error.  A
read takes no more than its limit, and leaves the rest of a piece for the next read.
-/

namespace BareMetal.Target

/-- The kinds of errors that reads and writes distinguish. -/
inductive IoKind where
  | interrupted
  | timedOut
  | wouldBlock
  | connectionReset
  | brokenPipe
  | writeZero
  | invalidInput
  | other
  deriving DecidableEq, Repr

/-- An error of a read or a write. -/
structure IoError where
  kind : IoKind
  message : String
  deriving DecidableEq, Repr

/-- What a read meets. -/
inductive Arrival where
  | data (bytes : Bytes)
  | failure (e : IoError)
  deriving DecidableEq, Repr

namespace Arrival

/-- An arrival as a number of reads that it can answer at most. -/
def weight : Arrival → Nat
  | data bytes => bytes.size + 1
  | failure _ => 1

/-- The reads that a list of arrivals can answer at most. -/
def totalWeight : List Arrival → Nat
  | [] => 0
  | a :: rest => a.weight + totalWeight rest

/-- What a read of at most `limit` bytes gets, and what is left; none if nothing is to come. -/
def read? (limit : Nat) : List Arrival → Option (Except IoError Bytes × List Arrival)
  | [] => none
  | failure e :: rest => some (.error e, rest)
  | data bytes :: rest =>
    if bytes.size ≤ limit then some (.ok bytes, rest)
    else some (.ok (bytes.extract 0 limit), data (bytes.extract limit bytes.size) :: rest)

theorem totalWeight_read? {limit : Nat} {incoming rest : List Arrival}
    {outcome : Except IoError Bytes} (positive : 0 < limit)
    (h : read? limit incoming = some (outcome, rest)) :
    totalWeight rest < totalWeight incoming := by
  match incoming with
  | [] => simp [read?] at h
  | failure e :: others =>
    simp only [read?, Option.some.injEq, Prod.mk.injEq] at h
    obtain ⟨_, rfl⟩ := h
    simp only [totalWeight, weight]
    omega
  | data bytes :: others =>
    simp only [read?] at h
    split at h <;> simp only [Option.some.injEq, Prod.mk.injEq] at h <;>
      obtain ⟨_, rfl⟩ := h <;>
      simp only [totalWeight, weight, Array.size_extract] <;> omega

end Arrival

end BareMetal.Target

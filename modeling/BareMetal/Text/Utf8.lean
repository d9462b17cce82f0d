import BareMetal.Bytes

/-!
# UTF-8

Bytes read as UTF-8, one sequence at a time.  `pieces` gives a character for every well-formed
sequence and nothing for every longest ill-formed one; `decode?` asks for well-formed sequences
only, and `decodeLossy` puts the replacement character where there is none.
-/

namespace BareMetal.Utf8

/-- What a leading byte asks for: the number of bytes after it, the range of the first of them,
and its own share of the code point. -/
def lead? (b : Nat) : Option (Nat × Nat × Nat × Nat) :=
  if 0xC2 ≤ b ∧ b ≤ 0xDF then some (1, 0x80, 0xBF, b % 0x20)
  else if b = 0xE0 then some (2, 0xA0, 0xBF, b % 0x10)
  else if b = 0xED then some (2, 0x80, 0x9F, b % 0x10)
  else if 0xE1 ≤ b ∧ b ≤ 0xEF then some (2, 0x80, 0xBF, b % 0x10)
  else if b = 0xF0 then some (3, 0x90, 0xBF, b % 0x08)
  else if b = 0xF4 then some (3, 0x80, 0x8F, b % 0x08)
  else if 0xF1 ≤ b ∧ b ≤ 0xF3 then some (3, 0x80, 0xBF, b % 0x08)
  else none

/-- Reads `count` further bytes, the first of them from `low` to `high`. -/
def tail : Nat → Nat → Nat → Nat → List UInt8 → Option Char × List UInt8
  | 0, _, _, code, rest => (some (Char.ofNat code), rest)
  | _ + 1, _, _, _, [] => (none, [])
  | count + 1, low, high, code, b :: rest =>
    if low ≤ b.toNat ∧ b.toNat ≤ high then
      tail count 0x80 0xBF (code * 64 + b.toNat % 64) rest
    else (none, b :: rest)

/-- The sequence that starts with `b`: its character if it is well formed, and what follows. -/
def sequence (b : UInt8) (rest : List UInt8) : Option Char × List UInt8 :=
  if b.toNat < 0x80 then (some (Char.ofNat b.toNat), rest)
  else match lead? b.toNat with
    | none => (none, rest)
    | some (count, low, high, code) => tail count low high code rest

theorem length_tail_le (count low high code : Nat) (bytes : List UInt8) :
    (tail count low high code bytes).2.length ≤ bytes.length := by
  induction bytes generalizing count low high code with
  | nil => cases count <;> simp [tail]
  | cons b rest ih =>
    cases count with
    | zero => simp [tail]
    | succ count =>
      simp only [tail]
      split
      · exact Nat.le_trans (ih ..) (by simp)
      · simp

theorem length_sequence_le (b : UInt8) (rest : List UInt8) :
    (sequence b rest).2.length ≤ rest.length := by
  simp only [sequence]
  split
  · simp
  · split
    · simp
    · exact length_tail_le ..

/-- The sequences of which the bytes consist, behind those already read, latest first. -/
def piecesAfter (read : List (Option Char)) : List UInt8 → List (Option Char)
  | [] => read.reverse
  | b :: rest => piecesAfter ((sequence b rest).1 :: read) (sequence b rest).2
  termination_by bytes => bytes.length
  decreasing_by
    have := length_sequence_le b rest
    simp only [List.length_cons]
    omega

/-- The sequences of which the bytes consist. -/
def pieces (bytes : List UInt8) : List (Option Char) := piecesAfter [] bytes

theorem piecesAfter_eq (read : List (Option Char)) (bytes : List UInt8) :
    piecesAfter read bytes = read.reverse ++ pieces bytes := by
  match bytes with
  | [] => simp [pieces, piecesAfter]
  | b :: rest =>
    have := length_sequence_le b rest
    rw [pieces, piecesAfter, piecesAfter, piecesAfter_eq _ (sequence b rest).2,
      piecesAfter_eq [(sequence b rest).1] (sequence b rest).2]
    simp
  termination_by bytes.length
  decreasing_by all_goals (simp only [List.length_cons]; omega)

theorem pieces_nil : pieces [] = [] := by simp [pieces, piecesAfter]

theorem pieces_cons (b : UInt8) (rest : List UInt8) :
    pieces (b :: rest) = (sequence b rest).1 :: pieces (sequence b rest).2 := by
  rw [pieces, piecesAfter, piecesAfter_eq]
  rfl

/-- The text whose UTF-8 bytes are given. -/
def decode? (bytes : Bytes) : Option String :=
  ((pieces bytes.toList).mapM id).map String.ofList

/-- The text in the bytes, with the replacement character for every ill-formed sequence. -/
def decodeLossy (bytes : Bytes) : String :=
  String.ofList ((pieces bytes.toList).map fun piece => piece.getD '\ufffd')

end BareMetal.Utf8

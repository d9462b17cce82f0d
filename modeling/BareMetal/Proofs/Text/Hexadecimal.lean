import BareMetal.Proofs.Text.Digits
import BareMetal.Proofs.Text.Lines
import BareMetal.Text.Hexadecimal

/-!
# Hexadecimal texts

Digits are marked as hexadecimal in four ways (`Marked`), of which no text shows two, and a text with
no mark is taken as it is (`strips_iff`).  A text is read as a word just when what is left of it
without its mark and its underscores is a numeral of that word (`parse_eq_ok_iff`), so the mark and
the places of the underscores do not matter (`StandsFor.congr`).
-/

namespace BareMetal.Hexadecimal

/-! ## Marks -/

/-- A text that marks its digits as hexadecimal, and these digits. -/
inductive Marked : List Char → List Char → Prop
  | lower (digits : List Char) : Marked (['0', 'x'] ++ digits) digits
  | upper (digits : List Char) : Marked (['0', 'X'] ++ digits) digits
  | dollar (digits : List Char) : Marked (['$'] ++ digits) digits
  | based (digits : List Char) : Marked (['1', '6', '#'] ++ digits ++ ['#']) digits

/-- A text and what is left of it without its mark, if it has one. -/
def Strips (cs rest : List Char) : Prop :=
  Marked cs rest ∨ rest = cs ∧ ∀ digits, ¬ Marked cs digits

theorem Marked.eq_body {cs digits : List Char} (h : Marked cs digits) : digits = body cs := by
  cases h with
  | lower => rfl
  | upper => rfl
  | dollar => rfl
  | based =>
    have unmarked : body (['1', '6', '#'] ++ digits ++ ['#']) =
        ((Text.dropPrefix? ['1', '6', '#'] (['1', '6', '#'] ++ (digits ++ ['#']))).bind
          (Text.dropSuffix? ['#'])).getD (['1', '6', '#'] ++ digits ++ ['#']) := rfl
    rw [unmarked, Text.dropPrefix?_append, Option.bind_some, Text.dropSuffix?_concat,
      Option.getD_some]

theorem marked_body_or_eq (cs : List Char) : Marked cs (body cs) ∨ body cs = cs := by
  unfold body
  split
  · exact .inl (.lower _)
  · exact .inl (.upper _)
  · exact .inl (.dollar _)
  · cases based : (Text.dropPrefix? ['1', '6', '#'] cs).bind (Text.dropSuffix? ['#']) with
    | none => exact .inr rfl
    | some digits =>
      obtain ⟨behind, found, ends⟩ := Option.bind_eq_some_iff.1 based
      obtain rfl := Text.dropPrefix?_eq_some_iff.1 found
      obtain rfl := Text.dropSuffix?_eq_some_iff.1 ends
      exact .inl (.based digits)

theorem strips_iff {cs rest : List Char} : Strips cs rest ↔ rest = body cs := by
  constructor
  · rintro (marked | ⟨rfl, unmarked⟩)
    · exact marked.eq_body
    · exact ((marked_body_or_eq rest).resolve_left (unmarked _)).symm
  · rintro rfl
    by_cases marked : ∃ digits, Marked cs digits
    · obtain ⟨digits, marked⟩ := marked
      exact .inl (marked.eq_body ▸ marked)
    · have unmarked : ∀ digits, ¬ Marked cs digits := fun digits h => marked ⟨digits, h⟩
      exact .inr ⟨(marked_body_or_eq cs).resolve_left (unmarked _), unmarked⟩

/-- A text without the characters that marks are made of has no mark. -/
theorem strips_self {cs : List Char} (h : ∀ c ∈ cs, c ∉ ['x', 'X', '$', '#']) : Strips cs cs := by
  refine .inr ⟨rfl, fun digits marked => ?_⟩
  cases marked with
  | lower => exact h 'x' (by simp) (by simp)
  | upper => exact h 'X' (by simp) (by simp)
  | dollar => exact h '$' (by simp) (by simp)
  | based => exact h '#' (by simp) (by simp)

/-! ## Words -/

/-- A text stands for a number in hexadecimal: without its mark and all underscores it is one digit
or more, and there may be a plus sign before them. -/
def StandsFor (cs : List Char) (n : Nat) : Prop :=
  ∃ rest sign digits, Strips cs rest ∧ rest.filter (· ≠ '_') = sign ++ digits ∧
    (sign = [] ∨ sign = ['+']) ∧ digits ≠ [] ∧ Numeral.Spells digits n

theorem standsFor_iff {cs : List Char} {n : Nat} :
    StandsFor cs n ↔ Numeral.read? 16 ((body cs).filter (· ≠ '_')) = some n := by
  rw [Numeral.read?_eq_some_iff_spells]
  constructor
  · rintro ⟨rest, sign, digits, strips, others⟩
    obtain rfl := strips_iff.1 strips
    exact ⟨sign, digits, others⟩
  · rintro ⟨sign, digits, others⟩
    exact ⟨_, sign, digits, strips_iff.2 rfl, others⟩

theorem word?_eq_some_iff {cs : List Char} {a : UInt32} :
    word? cs = some a ↔ StandsFor cs a.toNat := by
  rw [standsFor_iff, word?, Numeral.word32?_eq_some_iff]

theorem word?_eq_none_iff {cs : List Char} :
    word? cs = none ↔ ∀ n, StandsFor cs n → 2 ^ 32 ≤ n := by
  rw [Option.eq_none_iff_forall_ne_some]
  constructor
  · intro none n stands
    refine Nat.not_lt.1 fun small => none (UInt32.ofNat n) (word?_eq_some_iff.2 ?_)
    rwa [UInt32.toNat_ofNat_of_lt' small]
  · intro large a word
    exact Nat.not_lt.2 (large _ (word?_eq_some_iff.1 word)) a.toNat_lt

theorem parse_eq_ok_iff {s : String} {a : UInt32} :
    parse s = .ok a ↔ StandsFor s.toList a.toNat := by
  rw [← word?_eq_some_iff, parse]
  cases word? s.toList <;> simp

/-- A text that stands for no word is told back. -/
theorem parse_eq_error_iff {s message : String} : parse s = .error message ↔
    message = "Invalid hex value: " ++ s ∧ ∀ n, StandsFor s.toList n → 2 ^ 32 ≤ n := by
  rw [← word?_eq_none_iff, parse]
  cases word? s.toList <;> simp [eq_comm]

/-- Neither the mark nor the places of the underscores matter. -/
theorem StandsFor.congr {cs ds rest others : List Char} {n : Nat} (strips : Strips cs rest)
    (strips' : Strips ds others) (same : rest.filter (· ≠ '_') = others.filter (· ≠ '_'))
    (h : StandsFor cs n) : StandsFor ds n := by
  obtain rfl := strips_iff.1 strips
  obtain rfl := strips_iff.1 strips'
  rwa [standsFor_iff, ← same, ← standsFor_iff]

/-- There are no underscores in a numeral. -/
theorem filter_hexDigits (width n : Nat) :
    (Numeral.hexDigits width n).filter (· ≠ '_') = Numeral.hexDigits width n := by
  apply List.filter_eq_self.2
  intro c mem
  exact decide_eq_true (ne_of_mem_of_not_mem mem (Numeral.notMem_hexDigits (by decide)))

/-- The spellings of some digits: with each of the marks, and without one. -/
def spellings (digits : String) : List String :=
  ["0x" ++ digits, "0X" ++ digits, "$" ++ digits, "16#" ++ digits ++ "#", digits]

theorem strips_of_mem_spellings {digits s : String}
    (h : ∀ c ∈ digits.toList, c ∉ ['x', 'X', '$', '#']) (mem : s ∈ spellings digits) :
    Strips s.toList digits.toList := by
  simp only [spellings, List.mem_cons, List.not_mem_nil, or_false] at mem
  rcases mem with rfl | rfl | rfl | rfl | rfl
  · rw [String.toList_append]
    exact .inl (.lower _)
  · rw [String.toList_append]
    exact .inl (.upper _)
  · rw [String.toList_append]
    exact .inl (.dollar _)
  · rw [String.toList_append, String.toList_append]
    exact .inl (.based _)
  · exact strips_self h

end BareMetal.Hexadecimal

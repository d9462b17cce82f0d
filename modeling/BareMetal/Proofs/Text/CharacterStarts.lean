import BareMetal.Proofs.Pieces
import BareMetal.Proofs.Text.Utf8
import Mathlib.Algebra.Order.BigOperators.Group.List

/-!
# Texts cut into pieces

The bytes that no character holds inside are as many as its characters in a text, and never more
than what is read in other bytes (`starts_le_length_pieces`).  So a text that is cut into pieces,
each of which is read by itself, comes out unchanged only if it is cut between characters
(`join_ofText_decodeLossy_eq_iff`).
-/

namespace BareMetal.Utf8

instance : DecidablePred IsInner := fun _ => inferInstanceAs (Decidable (_ ∧ _))

/-- The number of bytes that do not stand inside a character. -/
def starts (bytes : List UInt8) : Nat := bytes.countP fun b => ¬ IsInner b

theorem starts_append (front back : List UInt8) :
    starts (front ++ back) = starts front + starts back := List.countP_append

theorem starts_cons_of_isInner {b : UInt8} (inner : IsInner b) (rest : List UInt8) :
    starts (b :: rest) = starts rest := List.countP_cons_of_neg (by simpa using inner)

theorem starts_cons_of_not_isInner {b : UInt8} (start : ¬ IsInner b) (rest : List UInt8) :
    starts (b :: rest) = starts rest + 1 := List.countP_cons_of_pos (by simpa using start)

theorem starts_cons_le (b : UInt8) (rest : List UInt8) : starts (b :: rest) ≤ starts rest + 1 := by
  by_cases inner : IsInner b
  · rw [starts_cons_of_isInner inner]
    exact Nat.le_succ _
  · exact (starts_cons_of_not_isInner inner rest).le

/-! ## Starts and what is read -/

/-- What is read behind the first byte of a sequence stands inside of it. -/
theorem starts_tail {count low high code : Nat} (low_ge : 0x80 ≤ low) (high_le : high ≤ 0xBF)
    (bytes : List UInt8) : starts (tail count low high code bytes).2 = starts bytes := by
  induction bytes generalizing count low high code with
  | nil => cases count <;> rfl
  | cons b rest ih =>
    cases count with
    | zero => rfl
    | succ count =>
      rw [tail]
      split_ifs with inside
      · have inner : IsInner b := ⟨low_ge.trans inside.1, inside.2.trans high_le⟩
        rw [ih (by decide) (by decide), starts_cons_of_isInner inner]
      · rfl

theorem lead?_range {n count low high code : Nat} (lead : lead? n = some (count, low, high, code)) :
    0x80 ≤ low ∧ high ≤ 0xBF := by
  unfold lead? at lead
  split_ifs at lead <;> cases lead <;> decide

theorem starts_sequence (b : UInt8) (rest : List UInt8) :
    starts (sequence b rest).2 = starts rest := by
  rw [sequence]
  split_ifs
  · rfl
  · split
    · rfl
    · rename_i lead
      obtain ⟨low_ge, high_le⟩ := lead?_range lead
      exact starts_tail low_ge high_le rest

/-- Every sequence that is read has at most one byte that does not stand inside a character. -/
theorem starts_le_length_pieces (bytes : List UInt8) : starts bytes ≤ (pieces bytes).length := by
  match bytes with
  | [] => exact Nat.zero_le _
  | b :: rest =>
    have := length_sequence_le b rest
    have behind := starts_le_length_pieces (sequence b rest).2
    rw [starts_sequence] at behind
    rw [pieces_cons, List.length_cons]
    exact (starts_cons_le b rest).trans (Nat.succ_le_succ behind)
  termination_by bytes.length
  decreasing_by
    simp only [List.length_cons]
    omega

/-- Bytes that begin inside a character are read as more than has started in them. -/
theorem starts_lt_length_pieces {bytes : List UInt8} {b : UInt8} (first : bytes.head? = some b)
    (inner : IsInner b) : starts bytes < (pieces bytes).length := by
  obtain ⟨rest, rfl⟩ := List.head?_eq_some_iff.1 first
  rw [starts_cons_of_isInner inner, pieces_cons, sequence_of_isInner inner]
  exact Nat.lt_succ_of_le (starts_le_length_pieces rest)

theorem starts_utf8EncodeChar (c : Char) : starts (String.utf8EncodeChar c) = 1 := by
  obtain ⟨b, more, bytes, read⟩ := sequence_utf8EncodeChar c []
  have start : ¬ IsInner b := by
    intro inner
    rw [sequence_of_isInner inner] at read
    cases read
  have others : starts more = 0 := by
    refine List.countP_eq_zero.2 fun x mem => ?_
    have inner : IsInner x := isInner_of_mem_tail (c := c) (by rwa [bytes, List.tail_cons])
    simpa using inner
  rw [bytes, starts_cons_of_not_isInner start, others]

theorem starts_encode (cs : List Char) : starts (encode cs) = cs.length := by
  induction cs with
  | nil => rfl
  | cons c rest ih =>
    rw [encode_cons, starts_append, starts_utf8EncodeChar, ih, List.length_cons, Nat.add_comm]

/-! ## Cuts -/

/-- A text that is cut in front of no inner byte is cut between two characters. -/
theorem exists_encode_of_append {cs : List Char} {front back : List UInt8}
    (whole : front ++ back = encode cs) (boundary : ∀ b, back.head? = some b → ¬ IsInner b) :
    (∃ before, front = encode before) ∧ ∃ after, back = encode after := by
  induction cs generalizing front with
  | nil =>
    obtain ⟨rfl, rfl⟩ := List.append_eq_nil_iff.1 whole
    exact ⟨⟨[], rfl⟩, [], rfl⟩
  | cons c rest ih =>
    rw [encode_cons, List.append_eq_append_iff] at whole
    rcases whole with ⟨inside, char_eq, rfl⟩ | ⟨behind, rfl, rest_eq⟩
    · cases front with
      | nil =>
        rw [List.nil_append] at char_eq
        exact ⟨⟨[], rfl⟩, c :: rest, by rw [encode_cons, char_eq]⟩
      | cons b more =>
        cases inside with
        | nil =>
          rw [List.append_nil] at char_eq
          exact ⟨⟨[c], by rw [← char_eq]; exact (List.append_nil _).symm⟩, rest, rfl⟩
        | cons x others =>
          refine absurd (isInner_of_mem_tail (c := c) ?_) (boundary x rfl)
          rw [char_eq]
          simp
    · obtain ⟨⟨before, rfl⟩, after⟩ := ih rest_eq.symm
      exact ⟨⟨c :: before, rfl⟩, after⟩

/-- The characters that are read in some bytes, with the replacement character for the others. -/
def lossyChars (bytes : List UInt8) : List Char := (pieces bytes).map fun piece => piece.getD '\ufffd'

/-- If pieces of a text that are read by themselves give the text, each of them is one. -/
theorem exists_encode_of_flatMap_lossyChars {parts : List (List UInt8)} {cs : List Char}
    (whole : parts.flatten = encode cs) (same : parts.flatMap lossyChars = cs) :
    ∀ p ∈ parts, ∃ ds, p = encode ds := by
  have count_starts : starts parts.flatten = (parts.map starts).sum := by
    rw [starts, List.countP_flatten]
    rfl
  have count_read : (parts.flatMap lossyChars).length =
      (parts.map fun p => (pieces p).length).sum := by
    simp [List.length_flatMap, lossyChars]
  have balance : (parts.map starts).sum = (parts.map fun p => (pieces p).length).sum := by
    rw [← count_starts, ← count_read, whole, same, starts_encode]
  -- no piece begins inside a character, because it would be read as too much
  have boundaries : ∀ p ∈ parts, ∀ b, p.head? = some b → ¬ IsInner b := by
    intro p mem b first inner
    refine Nat.ne_of_lt (List.sum_lt_sum _ _ ?_ ?_) balance
    · exact fun q _ => starts_le_length_pieces q
    · exact ⟨p, mem, starts_lt_length_pieces first inner⟩
  clear count_starts count_read balance same
  induction parts generalizing cs with
  | nil => exact nofun
  | cons p rest ih =>
    have boundary : ∀ b, rest.flatten.head? = some b → ¬ IsInner b := by
      intro b first
      obtain ⟨q, mem, q_first⟩ : ∃ q ∈ rest, q.head? = some b := by
        rw [List.head?_flatten] at first
        exact List.exists_of_findSome?_eq_some first
      exact boundaries q (by simp [mem]) b q_first
    obtain ⟨p_text, ds, rest_eq⟩ := exists_encode_of_append whole boundary
    exact List.forall_mem_cons.2 ⟨p_text, ih rest_eq fun q mem => boundaries q (by simp [mem])⟩

/-! ## Texts -/

/-- The bytes are those of a text. -/
def IsText (bytes : Bytes) : Prop := ∃ s : String, bytes = Bytes.ofText s

theorem isText_iff {bytes : Bytes} : IsText bytes ↔ ∃ cs, bytes.toList = encode cs := by
  constructor
  · rintro ⟨s, rfl⟩
    exact ⟨s.toList, toList_ofText s⟩
  · rintro ⟨cs, bytes_eq⟩
    refine ⟨String.ofList cs, Array.toList_inj.1 ?_⟩
    rw [bytes_eq, toList_ofText, String.toList_ofList]

theorem decodeLossy_ofText (s : String) : decodeLossy (Bytes.ofText s) = s := by
  rw [decodeLossy, toList_ofText, pieces_encode, List.map_map]
  exact (congrArg String.ofList (List.map_id s.toList)).trans String.ofList_toList

theorem toList_ofText_decodeLossy (bytes : Bytes) :
    (Bytes.ofText (decodeLossy bytes)).toList = encode (lossyChars bytes.toList) := by
  rw [toList_ofText, decodeLossy, String.toList_ofList, lossyChars]

theorem toList_join_ofText_decodeLossy (parts : List Bytes) :
    (Bytes.join (parts.map fun p => Bytes.ofText (decodeLossy p))).toList =
      encode ((parts.map Array.toList).flatMap lossyChars) := by
  induction parts with
  | nil => rfl
  | cons p rest ih =>
    rw [List.map_cons, Bytes.join_cons, Array.toList_append, ih, toList_ofText_decodeLossy,
      List.map_cons, List.flatMap_cons]
    exact List.flatMap_append.symm

/-- Pieces of a text that are read by themselves give the text if and only if they are texts. -/
theorem join_ofText_decodeLossy_eq_iff {parts : List Bytes} (text : IsText (Bytes.join parts)) :
    Bytes.join (parts.map fun p => Bytes.ofText (decodeLossy p)) = Bytes.join parts ↔
      ∀ p ∈ parts, IsText p := by
  constructor
  · intro same p mem
    obtain ⟨cs, whole⟩ := isText_iff.1 text
    have read_eq := congrArg Array.toList same
    rw [toList_join_ofText_decodeLossy, whole] at read_eq
    rw [Bytes.toList_join] at whole
    exact isText_iff.2 (exists_encode_of_flatMap_lossyChars whole (encode_injective read_eq) _
      (List.mem_map_of_mem mem))
  · intro texts
    refine congrArg Bytes.join ?_
    rw [List.map_congr_left (g := id), List.map_id]
    intro p mem
    obtain ⟨s, rfl⟩ := texts p mem
    rw [decodeLossy_ofText, id]

end BareMetal.Utf8

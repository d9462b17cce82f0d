import BareMetal.MemoryImage
import BareMetal.Proofs.Pieces
import BareMetal.Proofs.Text.Digits
import BareMetal.Proofs.Text.Lines

/-!
# Memory images and their bytes

The lines of a memory image are its header, an empty one, and one for each thirty-two bytes
(`toList_render`): the separators, chosen one by one, fall into lines because a line begins at every
index that thirty-two divides (`cells_join`).  Who leaves out the first line and reads the pairs of
digits between blanks and line ends has the bytes again (`read?_render`).
-/

namespace BareMetal.MemoryImage

/-! ## Rows -/

/-- The two digits of a byte. -/
def pair (b : UInt8) : List Char :=
  [Numeral.hexDigit (b.toNat / 16), Numeral.hexDigit (b.toNat % 16)]

theorem hexDigits_eq_pair (b : UInt8) : Numeral.hexDigits 2 b.toNat = pair b := by
  have small : b.toNat < 16 ^ (1 + 1) := b.toNat_lt
  have high := Numeral.getElem?_hexDigits small (i := 0) (by decide)
  have low := Numeral.getElem?_hexDigits small (i := 1) (by decide)
  obtain ⟨x, y, digits_eq⟩ := List.length_eq_two.1 (Numeral.length_hexDigits small)
  rw [digits_eq] at high low ⊢
  obtain rfl := Option.some.inj high
  obtain rfl := Option.some.inj low
  have first : b.toNat / 16 ^ (1 - 0) % 16 = b.toNat / 16 := by omega
  have second : b.toNat / 16 ^ (1 - 1) % 16 = b.toNat % 16 := by omega
  rw [first, second, pair]

theorem exists_of_mem_pair {b : UInt8} {c : Char} (mem : c ∈ pair b) :
    ∃ d < 16, c = Numeral.hexDigit d := by
  rw [← hexDigits_eq_pair] at mem
  exact Numeral.exists_of_mem_hexDigits mem

/-- Bytes as pairs of digits with a blank between each two. -/
def row (bytes : Bytes) : List Char := [' '].intercalate (bytes.toList.map pair)

theorem intercalate_pairs (b : UInt8) (bs : List UInt8) :
    [' '].intercalate ((b :: bs).map pair) = pair b ++ bs.flatMap fun b => ' ' :: pair b := by
  induction bs generalizing b with
  | nil => simp
  | cons c bs ih =>
    rw [List.map_cons, List.map_cons, List.intercalate_cons_cons, ← List.map_cons, ih,
      List.flatMap_cons, List.append_assoc]
    rfl

theorem mem_row {bytes : Bytes} {c : Char} (mem : c ∈ row bytes) :
    c = ' ' ∨ ∃ d < 16, c = Numeral.hexDigit d := by
  rw [row] at mem
  cases chars : bytes.toList with
  | nil => simp [chars] at mem
  | cons b bs =>
    rw [chars, intercalate_pairs, List.mem_append, List.mem_flatMap] at mem
    rcases mem with first | ⟨b', -, other⟩
    · exact .inr (exists_of_mem_pair first)
    · exact (List.mem_cons.1 other).imp_right exists_of_mem_pair

/-! ## Separators -/

/-- Bytes from an index on, each behind its separator. -/
def cells (start : Nat) (bytes : List UInt8) : List Char :=
  (bytes.zipIdx start).flatMap fun (b, index) => separator index :: Numeral.hexDigits 2 b.toNat

theorem pairs_eq_cells (data : Bytes) : pairs data = cells 0 data.toList := rfl

theorem cells_cons (start : Nat) (b : UInt8) (bs : List UInt8) :
    cells start (b :: bs) = separator start :: (pair b ++ cells (start + 1) bs) := by
  rw [← hexDigits_eq_pair, cells, List.zipIdx_cons, List.flatMap_cons]
  rfl

theorem cells_append (start : Nat) (bs cs : List UInt8) :
    cells start (bs ++ cs) = cells start bs ++ cells (start + bs.length) cs := by
  rw [cells, List.zipIdx_append, List.flatMap_append]
  rfl

/-- Within a line there are blanks before the pairs. -/
theorem cells_within {start : Nat} {bs : List UInt8} (within : ∀ i < bs.length,
    (start + i) % bytesPerLine ≠ 0) : cells start bs = bs.flatMap fun b => ' ' :: pair b := by
  induction bs generalizing start with
  | nil => rfl
  | cons b bs ih =>
    have first : start % bytesPerLine ≠ 0 := within 0 (Nat.succ_pos _)
    have others : ∀ i < bs.length, (start + 1 + i) % bytesPerLine ≠ 0 := by
      intro i hi
      have := within (i + 1) (Nat.succ_lt_succ hi)
      rwa [Nat.add_comm i 1, ← Nat.add_assoc] at this
    rw [cells_cons, ih others, separator, if_neg first, List.flatMap_cons]
    rfl

/-- A line begins at an index that the length of a line divides. -/
theorem cells_line {start : Nat} (border : start % bytesPerLine = 0) {bytes : Bytes}
    (filled : 0 < bytes.size ∧ bytes.size ≤ bytesPerLine) :
    cells start bytes.toList = '\n' :: row bytes := by
  rw [bytesPerLine] at filled
  rw [← Array.length_toList] at filled
  rw [row]
  cases chars : bytes.toList with
  | nil => simp [chars] at filled
  | cons b bs =>
    have within : ∀ i < bs.length, (start + 1 + i) % bytesPerLine ≠ 0 := by
      rw [chars, List.length_cons] at filled
      rw [bytesPerLine] at border ⊢
      omega
    rw [cells_cons, cells_within within, separator, if_pos border, intercalate_pairs]

/-- Pieces of which only the last may be shorter than a line are the lines. -/
theorem cells_join {start : Nat} {pieces : List Bytes}
    (border : pieces ≠ [] → start % bytesPerLine = 0)
    (filled : ∀ p ∈ pieces, 0 < p.size ∧ p.size ≤ bytesPerLine)
    (whole : ∀ i p, pieces[i]? = some p → i + 1 < pieces.length → p.size = bytesPerLine) :
    cells start (Bytes.join pieces).toList = pieces.flatMap fun p => '\n' :: row p := by
  induction pieces generalizing start with
  | nil => rfl
  | cons piece pieces ih =>
    rw [List.forall_mem_cons] at filled
    have border' : pieces ≠ [] → (start + piece.size) % bytesPerLine = 0 := by
      intro more
      rw [whole 0 piece rfl (Nat.succ_lt_succ (List.length_pos_iff.2 more)), Nat.add_mod_right]
      exact border (List.cons_ne_nil piece pieces)
    have whole' : ∀ i p, pieces[i]? = some p → i + 1 < pieces.length → p.size = bytesPerLine :=
      fun i p at_i more => whole (i + 1) p at_i (Nat.succ_lt_succ more)
    rw [Bytes.join_cons, Array.toList_append, cells_append, Array.length_toList,
      cells_line (border (List.cons_ne_nil piece pieces)) filled.1, ih border' filled.2 whole',
      List.flatMap_cons]

theorem bytesPerLine_pos : 0 < bytesPerLine := by decide

theorem pairs_eq (data : Bytes) :
    pairs data = (Bytes.chunks bytesPerLine data).flatMap fun p => '\n' :: row p := by
  have lines := cells_join (fun _ => Nat.zero_mod bytesPerLine)
    (fun p mem => Bytes.size_of_mem_chunks bytesPerLine_pos (b := data) mem)
    (fun i p at_i more => Bytes.size_of_getElem?_chunks bytesPerLine_pos at_i more)
  rwa [Bytes.join_chunks bytesPerLine_pos, ← pairs_eq_cells] at lines

/-! ## Lines -/

/-- The header without its line end. -/
def headerLine : List Char := "v2.0 raw".toList

/-- The lines of a memory image. -/
def imageLines (data : Bytes) : List (List Char) :=
  headerLine :: [] :: (Bytes.chunks bytesPerLine data).map row

theorem flatMap_cons_concat {α β : Type} (x : β) (f : α → List β) (as : List α) :
    as.flatMap (fun a => x :: f a) ++ [x] = x :: as.flatMap fun a => f a ++ [x] := by
  induction as with
  | nil => rfl
  | cons a as ih => simp [ih]

/-- A memory image is made of its lines, with a line end behind each. -/
theorem toList_render (data : Bytes) :
    (render data).toList = (imageLines data).flatMap (· ++ ['\n']) := by
  have head : header.toList = headerLine ++ ['\n'] := by decide
  have last : "\n".toList = ['\n'] := rfl
  rw [render, String.toList_append, String.toList_append, String.toList_ofList, head, last,
    List.append_assoc, pairs_eq, flatMap_cons_concat, imageLines, List.flatMap_cons,
    List.flatMap_cons, List.flatMap_map]
  rfl

theorem lines_render (data : Bytes) : Text.lines (render data).toList = imageLines data := by
  have other {c : Char} (no_blank : c ≠ ' ') (no_digit : ∀ d < 16, c ≠ Numeral.hexDigit d)
      (p : Bytes) : c ∉ row p := by
    intro mem
    rcases mem_row mem with blank | ⟨d, d_lt, digit⟩
    · exact no_blank blank
    · exact no_digit d d_lt digit
  rw [toList_render]
  apply Text.lines_flatMap
  · simp only [imageLines, List.forall_mem_cons, List.forall_mem_map]
    exact ⟨by decide, by decide, fun p _ => other (by decide) (by decide) p⟩
  · simp only [imageLines, List.forall_mem_cons, List.forall_mem_map]
    exact ⟨by decide, by decide, fun p _ last =>
      other (by decide) (by decide) p (List.mem_of_getLast? last)⟩

/-! ## Size -/

theorem length_cells (start : Nat) (bs : List UInt8) : (cells start bs).length = 3 * bs.length := by
  induction bs generalizing start with
  | nil => rfl
  | cons b bs ih =>
    rw [cells_cons, List.length_cons, List.length_append, ih, pair, List.length_cons]
    simp only [List.length_cons, List.length_nil]
    omega

theorem utf8Size_of_mem_cells {start : Nat} {bs : List UInt8} {c : Char}
    (mem : c ∈ cells start bs) : c.utf8Size = 1 := by
  induction bs generalizing start with
  | nil => cases mem
  | cons b bs ih =>
    rw [cells_cons, List.mem_cons, List.mem_append] at mem
    rcases mem with rfl | digit | later
    · unfold separator
      split <;> rfl
    · obtain ⟨d, d_lt, rfl⟩ := exists_of_mem_pair digit
      exact Numeral.utf8Size_hexDigit d d_lt
    · exact ih later

/-- There are three bytes to each byte of the data, and ten more. -/
theorem size_render (data : Bytes) : (Bytes.ofText (render data)).size = 10 + 3 * data.size := by
  have all : (String.ofList (pairs data)).utf8ByteSize = 3 * data.size := by
    rw [pairs_eq_cells, ← Bytes.size_ofText,
      Bytes.size_ofText_ofList fun c mem => utf8Size_of_mem_cells mem]
    exact length_cells 0 data.toList
  have head : header.utf8ByteSize = 9 := by decide
  have last : "\n".utf8ByteSize = 1 := by decide
  rw [Bytes.size_ofText, render, String.utf8ByteSize_append, String.utf8ByteSize_append, all, head,
    last]
  omega

/-! ## Reading -/

/-- The byte that two digits stand for. -/
def byte? : List Char → Option UInt8
  | [high, low] => (Numeral.ofDigits? 16 [high, low]).map UInt8.ofNat
  | _ => none

theorem byte?_pair (b : UInt8) : byte? (pair b) = some b := by
  have value := Numeral.ofDigits?_hexDigits 2 b.toNat
  rw [hexDigits_eq_pair, pair] at value
  rw [pair, byte?, value, Option.map_some, UInt8.ofNat_toNat]

theorem mapM_byte?_pairs (bs : List UInt8) : (bs.map pair).mapM byte? = some bs := by
  induction bs with
  | nil => rfl
  | cons b bs ih => rw [List.map_cons, List.mapM_cons, byte?_pair, ih]; rfl

/-- What stands between the blanks and line ends of a memory image, behind its first line. -/
def words (image : String) : List (List Char) :=
  ((Text.lines image.toList).tail.flatMap (Text.splitOn ' ')).filter (· ≠ [])

/-- The bytes in a memory image, if it holds nothing but pairs of digits behind its first line. -/
def read? (image : String) : Option Bytes := ((words image).mapM byte?).map List.toArray

theorem splitOn_row {bytes : Bytes} (filled : 0 < bytes.size) :
    Text.splitOn ' ' (row bytes) = bytes.toList.map pair := by
  have no_blank : ∀ chars ∈ bytes.toList.map pair, ' ' ∉ chars := by
    intro chars mem blank
    obtain ⟨b, -, rfl⟩ := List.mem_map.1 mem
    obtain ⟨d, d_lt, digit⟩ := exists_of_mem_pair blank
    exact absurd digit ((by decide : ∀ d < 16, ' ' ≠ Numeral.hexDigit d) d d_lt)
  have some_pair : bytes.toList.map pair ≠ [] := by
    rw [ne_eq, List.map_eq_nil_iff, Array.toList_eq_nil_iff]
    exact Array.ne_empty_of_size_pos filled
  rw [Text.splitOn_eq, row, List.splitOn_intercalate ' ' no_blank some_pair]

theorem words_render (data : Bytes) : words (render data) = data.toList.map pair := by
  have each : (Bytes.chunks bytesPerLine data).flatMap (fun p => Text.splitOn ' ' (row p)) =
      data.toList.map pair := by
    have data_eq : data.toList = (Bytes.chunks bytesPerLine data).flatMap Array.toList := by
      rw [List.flatMap_def, ← Bytes.toList_join, Bytes.join_chunks bytesPerLine_pos]
    rw [data_eq, List.map_flatMap]
    apply List.flatMap_congr
    intro p mem
    exact splitOn_row (Bytes.size_of_mem_chunks bytesPerLine_pos mem).1
  have kept : (data.toList.map pair).filter (· ≠ []) = data.toList.map pair := by
    apply List.filter_eq_self.2
    intro chars mem
    obtain ⟨b, -, rfl⟩ := List.mem_map.1 mem
    exact decide_eq_true (List.cons_ne_nil _ _)
  rw [words, lines_render, imageLines, List.tail_cons, List.flatMap_cons, List.flatMap_map, each,
    List.filter_append, kept]
  rfl

theorem read?_render (data : Bytes) : read? (render data) = some data := by
  rw [read?, words_render, mapM_byte?_pairs, Option.map_some, Array.toArray_toList]

/-- The text of a memory image has three bytes to each byte of the data and ten more.  It is made of
the header, an empty line, and the bytes as pairs of digits with single blanks between them, in
lines of thirty-two of which only the last may be shorter; each of its lines ends with a line feed.
Its pairs are read as the data again, so it is the image of no other data. -/
theorem render_lossless :
    (∀ data : Bytes, (Bytes.ofText (render data)).size = 10 + 3 * data.size ∧
      (∃ pieces : List Bytes, Bytes.join pieces = data ∧
        (render data).toList =
          ("v2.0 raw".toList :: [] :: pieces.map row).flatMap (· ++ ['\n']) ∧
        Text.lines (render data).toList = "v2.0 raw".toList :: [] :: pieces.map row ∧
        pieces.length = ceilDiv data.size 32 ∧ (∀ p ∈ pieces, 0 < p.size ∧ p.size ≤ 32) ∧
        ∀ i p, pieces[i]? = some p → i + 1 < pieces.length → p.size = 32) ∧
      (render data).toList.getLast? = some '\n' ∧ read? (render data) = some data) ∧
    Function.Injective render := by
  constructor
  · intro data
    have ends : (render data).toList.getLast? = some '\n' := by
      rw [render, String.toList_append]
      exact List.getLast?_concat
    refine ⟨size_render data, ⟨Bytes.chunks bytesPerLine data, ?_, toList_render data,
      lines_render data, Bytes.length_chunks _ data, ?_, ?_⟩, ends, read?_render data⟩
    · exact Bytes.join_chunks bytesPerLine_pos data
    · exact fun p mem => Bytes.size_of_mem_chunks bytesPerLine_pos mem
    · exact fun i p at_i more => Bytes.size_of_getElem?_chunks bytesPerLine_pos at_i more
  · intro data other same
    have read := read?_render data
    rw [same, read?_render] at read
    exact (Option.some.inj read).symm

/-- One byte more than a line holds is the second line of the two. -/
theorem render_lossless_of_two_lines :
    (Bytes.ofText (render (Bytes.zeros 33))).size = 109 ∧
      ∃ first second, Text.lines (render (Bytes.zeros 33)).toList =
        ["v2.0 raw".toList, [], row first, row second] ∧ first.size = 32 ∧ second.size = 1 := by
  obtain ⟨size_eq, ⟨pieces, whole, -, lines_eq, length_eq, -, full⟩, -⟩ :=
    render_lossless.1 (Bytes.zeros 33)
  rw [Bytes.size_zeros] at size_eq length_eq
  obtain ⟨first, second, rfl⟩ := List.length_eq_two.1 length_eq
  have first_size := full 0 first rfl Nat.one_lt_two
  have sizes : first.size + second.size = 33 := by
    simpa [Bytes.join] using congrArg Array.size whole
  exact ⟨size_eq, first, second, lines_eq, first_size, by omega⟩

end BareMetal.MemoryImage

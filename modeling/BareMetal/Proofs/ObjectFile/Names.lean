import BareMetal.ObjectFile.Tables
import BareMetal.Proofs.Text.Utf8

/-!
# Names in string tables

A string table that holds texts, each ended by a zero byte, is read as these texts
(`ofBytes?_bytesOf`).  The name found at an offset is the text between there and the next zero byte,
whether it is a whole text of the table or the end of one (`ofBytes?_names`).
-/

namespace BareMetal.ObjectFile

/-- Some bytes stand at an offset of others. -/
def StandsAt (bytes : Bytes) (offset : Nat) (piece : Bytes) : Prop :=
  offset + piece.size ≤ bytes.size ∧ Bytes.slice bytes offset piece.size = piece

theorem toList_slice (bytes : Bytes) (offset size : Nat) :
    (Bytes.slice bytes offset size).toList = (bytes.toList.drop offset).take size := by
  rw [Bytes.slice, Array.toList_extract, List.extract_eq_take_drop, Nat.add_sub_cancel_left]

/-- Lists are cut faster than arrays where this is evaluated. -/
instance (bytes : Bytes) (offset : Nat) (piece : Bytes) :
    Decidable (StandsAt bytes offset piece) :=
  decidable_of_iff (offset + piece.size ≤ bytes.size ∧
      (bytes.toList.drop offset).take piece.size = piece.toList) <| by
    rw [StandsAt, ← toList_slice, Array.toList_inj]

theorem StandsAt.drop_toList {bytes piece : Bytes} {offset : Nat}
    (stands : StandsAt bytes offset piece) :
    ∃ behind, bytes.toList.drop offset = piece.toList ++ behind := by
  refine ⟨(bytes.toList.drop offset).drop piece.size, ?_⟩
  rw [← congrArg Array.toList stands.2, toList_slice, List.take_append_drop]

theorem StandsAt.append {file a b : Bytes} {offset : Nat}
    (stands : StandsAt file offset (a ++ b)) :
    StandsAt file offset a ∧ StandsAt file (offset + a.size) b := by
  obtain ⟨inside, content⟩ := stands
  rw [Array.size_append] at inside content
  have front : Bytes.slice file offset a.size = Bytes.slice (a ++ b) 0 a.size := by
    rw [← content, Bytes.slice_slice (by omega), Nat.add_zero]
  have back : Bytes.slice file (offset + a.size) b.size = Bytes.slice (a ++ b) a.size b.size := by
    rw [← content, Bytes.slice_slice (by omega)]
  refine ⟨⟨by omega, ?_⟩, ⟨by omega, ?_⟩⟩
  · rw [front, Bytes.slice]
    simp
  · rw [back, Bytes.slice]
    simp

namespace StringTable

/-! ## Tables of texts -/

/-- The bytes of some texts, each ended by a zero byte. -/
def bytesOf (texts : List String) : List UInt8 :=
  texts.flatMap fun text => (Bytes.ofText text).toList ++ [0]

theorem bytesOf_cons (text : String) (rest : List String) :
    bytesOf (text :: rest) = Utf8.encode text.toList ++ 0 :: bytesOf rest := by
  simp [bytesOf, Utf8.toList_ofText]

/-- The bytes are those of some texts without the character zero. -/
def IsStringTable (table : Bytes) : Prop :=
  ∃ texts : List String, (∀ text ∈ texts, '\x00' ∉ text.toList) ∧ table.toList = bytesOf texts

theorem pieces_append {piece : List UInt8} (no_zero : 0 ∉ piece) (rest : List UInt8) :
    pieces (piece ++ 0 :: rest) = piece :: pieces rest := by
  induction piece with
  | nil => rfl
  | cons b piece ih =>
    simp only [List.mem_cons, not_or] at no_zero
    unfold pieces at ih ⊢
    rw [List.cons_append, List.foldr_cons, if_neg (Ne.symm no_zero.1), ih no_zero.2]

theorem pieces_bytesOf {texts : List String} (no_zero : ∀ text ∈ texts, '\x00' ∉ text.toList) :
    pieces (bytesOf texts) = texts.map fun text => Utf8.encode text.toList := by
  induction texts with
  | nil => rfl
  | cons text rest ih =>
    rw [bytesOf_cons, pieces_append (Utf8.notMem_encode (by decide) (no_zero text (by simp))),
      ih fun other mem => no_zero other (by simp [mem]), List.map_cons]

/-- The texts with the offsets at which they start. -/
def named (start : Nat) : List String → List (Nat × List Char)
  | [] => []
  | text :: rest =>
    (start, text.toList) :: named (start + (Utf8.encode text.toList).length + 1) rest

theorem mapM_withOffsets (start : Nat) (texts : List String) :
    ((withOffsets start (texts.map fun text => Utf8.encode text.toList)).mapM
      fun (offset, piece) =>
        (Utf8.decode? piece.toArray).map fun name => (offset, name.toList)) =
      some (named start texts) := by
  induction texts generalizing start with
  | nil => rfl
  | cons text rest ih =>
    have decoded : Utf8.decode? (Utf8.encode text.toList).toArray = some text := by
      rw [← Utf8.toList_ofText, Array.toArray_toList, Utf8.decode?_ofText]
    rw [List.map_cons, withOffsets, List.mapM_cons, ih]
    simp only [decoded]
    rfl

theorem ofBytes?_bytesOf {table : Bytes} {texts : List String}
    (no_zero : ∀ text ∈ texts, '\x00' ∉ text.toList) (content : table.toList = bytesOf texts) :
    ofBytes? table = some { names := named 0 texts } := by
  rw [ofBytes?, content, pieces_bytesOf no_zero, mapM_withOffsets]
  rfl

/-! ## Names by offset -/

/-- The text between an offset of a table and the next zero byte; an empty table has the empty text
only. -/
def HasName (table : Bytes) (offset : Nat) (name : String) : Prop :=
  (table.size = 0 ∧ name = "") ∨
    ('\x00' ∉ name.toList ∧ StandsAt table offset (Bytes.ofText name ++ #[0]))

instance (table : Bytes) (offset : Nat) (name : String) :
    Decidable (HasName table offset name) := by
  unfold HasName
  infer_instance

theorem name?_eq (t : StringTable) (offset : Nat) :
    t.name? offset = (t.names.takeWhile (·.1 ≤ offset)).getLast?.bind fun entry =>
      (Text.takeBytes? (offset - entry.1) entry.2).map Prod.snd := by
  refine congrArg (Option.bind (t.names.takeWhile (·.1 ≤ offset)).getLast?) (funext fun entry => ?_)
  show (Text.takeBytes? (offset - entry.1) entry.2).bind _ = _
  cases Text.takeBytes? (offset - entry.1) entry.2 <;> rfl

theorem name?_named_cons_of_le {start offset : Nat} {text : String} {rest : List String}
    (behind : start ≤ offset) (inside : offset ≤ start + (Utf8.encode text.toList).length) :
    name? ⟨named start (text :: rest)⟩ offset =
      (Text.takeBytes? (offset - start) text.toList).map Prod.snd := by
  have none_later : (named (start + (Utf8.encode text.toList).length + 1) rest).takeWhile
      (·.1 ≤ offset) = [] := by
    cases rest with
    | nil => rfl
    | cons next rest =>
      rw [named, List.takeWhile_cons_of_neg]
      simp only [decide_eq_true_eq]
      omega
  have first : (named start (text :: rest)).takeWhile (·.1 ≤ offset) =
      [(start, text.toList)] := by
    rw [named, List.takeWhile_cons_of_pos (by simpa using behind), none_later]
  rw [name?_eq, first]
  rfl

theorem name?_named_cons_of_gt {start offset : Nat} {text : String} {rest : List String}
    {found : List Char} (behind : start + (Utf8.encode text.toList).length < offset)
    (later : name? ⟨named (start + (Utf8.encode text.toList).length + 1) rest⟩ offset =
      some found) :
    name? ⟨named start (text :: rest)⟩ offset = some found := by
  rw [name?_eq] at later ⊢
  obtain ⟨entry, last, read⟩ := Option.bind_eq_some_iff.1 later
  have passed : (named start (text :: rest)).takeWhile (·.1 ≤ offset) = (start, text.toList) ::
      (named (start + (Utf8.encode text.toList).length + 1) rest).takeWhile (·.1 ≤ offset) := by
    rw [named, List.takeWhile_cons_of_pos (by simp only [decide_eq_true_eq]; omega)]
  rw [passed, List.getLast?_cons, last]
  exact read

theorem name?_named {texts : List String} {start offset : Nat} {name : String}
    {behind : List UInt8} (no_zero : ∀ text ∈ texts, '\x00' ∉ text.toList)
    (name_no_zero : '\x00' ∉ name.toList) (from_start : start ≤ offset)
    (content : (bytesOf texts).drop (offset - start) = Utf8.encode name.toList ++ 0 :: behind) :
    name? ⟨named start texts⟩ offset = some name.toList := by
  induction texts generalizing start with
  | nil => simp [bytesOf] at content
  | cons text rest ih =>
    rw [bytesOf_cons] at content
    by_cases inside : offset ≤ start + (Utf8.encode text.toList).length
    · -- the name ends where this text does, as neither holds a zero byte
      have suffix : (Utf8.encode text.toList).drop (offset - start) = Utf8.encode name.toList := by
        have text_no_zero : 0 ∉ (Utf8.encode text.toList).drop (offset - start) := fun mem =>
          Utf8.notMem_encode (by decide) (no_zero text (by simp)) (List.mem_of_mem_drop mem)
        rw [List.drop_append_of_le_length (by omega)] at content
        have pieces_eq := congrArg pieces content
        rw [pieces_append text_no_zero,
          pieces_append (Utf8.notMem_encode (by decide) name_no_zero)] at pieces_eq
        exact (List.cons.inj pieces_eq).1
      obtain ⟨taken, read⟩ := Utf8.takeBytes?_of_suffix (by omega) suffix
      rw [name?_named_cons_of_le from_start inside, read]
      rfl
    · refine name?_named_cons_of_gt (by omega) (ih ?_ (by omega) ?_)
      · exact fun other mem => no_zero other (by simp [mem])
      · have past : offset - start = (Utf8.encode text.toList).length +
            (offset - (start + (Utf8.encode text.toList).length + 1) + 1) := by omega
        rw [past, List.drop_length_add_append, List.drop_succ_cons] at content
        exact content

/-- The name at an offset is the text that stands there; where none is found it is empty. -/
theorem ofBytes?_names {table : Bytes} (is_table : IsStringTable table) :
    ∃ t, ofBytes? table = some t ∧ ∀ offset name, HasName table offset name →
      ((t.name? offset).map String.ofList).getD "" = name := by
  obtain ⟨texts, no_zero, content⟩ := is_table
  refine ⟨⟨named 0 texts⟩, ofBytes?_bytesOf no_zero content, fun offset name has => ?_⟩
  rcases has with ⟨no_bytes, rfl⟩ | ⟨name_no_zero, stands⟩
  · have no_texts : texts = [] := by
      cases texts with
      | nil => rfl
      | cons text rest =>
        have length_eq := congrArg List.length content
        rw [Array.length_toList, no_bytes, bytesOf_cons, List.length_append] at length_eq
        cases length_eq
    subst no_texts
    rfl
  · obtain ⟨behind, found⟩ := stands.drop_toList
    rw [Array.toList_append, Utf8.toList_ofText, content, List.append_assoc] at found
    rw [name?_named no_zero name_no_zero (Nat.zero_le _) found, Option.map_some,
      String.ofList_toList, Option.getD_some]

end StringTable

end BareMetal.ObjectFile

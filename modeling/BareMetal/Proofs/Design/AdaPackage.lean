import BareMetal.Design.BaseAddress
import BareMetal.Proofs.Text.Hexadecimal
import Mathlib.Data.List.DropRight

/-!
# The lines of an Ada package

A package is a line for each constant between two lines and one (`toList_text`).  What stands behind
the name of a constant has one length, so a line gives its constant again (`declared?_row`): the
literal is read as the address (`parse_literal`), and the blanks behind the name are none of it.
The names are filled up by characters to the size of the longest in bytes, which no name exceeds in
characters, so that the colons stand in one column (`rows_read_back`).
-/

namespace BareMetal.Design.AdaPackage

/-! ## Addresses as literals -/

theorem length_hexDigits_high (address : UInt32) :
    (Numeral.hexDigits 4 (address.toNat / 0x10000)).length = 4 := by
  have := address.toNat_lt
  exact Numeral.length_hexDigits (by omega)

theorem length_hexDigits_low (address : UInt32) :
    (Numeral.hexDigits 4 (address.toNat % 0x10000)).length = 4 :=
  Numeral.length_hexDigits (by omega)

theorem toList_literal (address : UInt32) : (literal address).toList = ['1', '6', '#'] ++
    (Numeral.hexDigits 4 (address.toNat / 0x10000) ++
      '_' :: Numeral.hexDigits 4 (address.toNat % 0x10000)) ++ ['#'] := by
  simp [literal, Numeral.hexPad]

theorem length_literal (address : UInt32) : (literal address).toList.length = 13 := by
  simp only [toList_literal, List.length_append, List.length_cons, length_hexDigits_high,
    length_hexDigits_low, List.length_nil]

/-- The two groups of a literal are the digits of its address. -/
theorem ofDigits?_groups (address : UInt32) :
    Numeral.ofDigits? 16 (Numeral.hexDigits 4 (address.toNat / 0x10000) ++
      Numeral.hexDigits 4 (address.toNat % 0x10000)) = some address.toNat := by
  rw [Numeral.ofDigits?_append (by decide) (Numeral.ofDigits?_hexDigits _ _)
    (Numeral.ofDigits?_hexDigits _ _), length_hexDigits_low]
  exact congrArg some (Nat.div_add_mod' address.toNat 0x10000)

/-- A literal is read as the address that it is made of. -/
theorem parse_literal (address : UInt32) : Hexadecimal.parse (literal address) = .ok address := by
  have marked := Hexadecimal.Marked.based (Numeral.hexDigits 4 (address.toNat / 0x10000) ++
    '_' :: Numeral.hexDigits 4 (address.toNat % 0x10000))
  rw [← toList_literal] at marked
  refine Hexadecimal.parse_eq_ok_iff.2 ⟨_, [], _, .inl marked, ?_, .inl rfl, ?_,
    Numeral.ofDigits?_eq_some_iff_spells.1 (ofDigits?_groups address)⟩
  · rw [List.filter_append, Hexadecimal.filter_hexDigits, List.filter_cons_of_neg (by decide),
      Hexadecimal.filter_hexDigits, List.nil_append]
  · exact List.append_ne_nil_of_left_ne_nil (Numeral.hexDigits_ne_nil _ _) _

/-! ## Lines -/

/-- What stands in the line of a constant behind its name and the blanks that fill it up. -/
def ending (address : UInt32) : String := " : constant := " ++ literal address ++ ";"

/-- The line of a constant. -/
def row (width : Nat) (a : BaseAddress) : String :=
  "   " ++ padRight width a.constant ++ ending a.address

/-- The lines of a package. -/
def packageLines (name : String) (addresses : List BaseAddress) : List String :=
  ("package " ++ name ++ " is") :: "   pragma Pure;" ::
    addresses.map (row (width addresses)) ++ ["end " ++ name ++ ";"]

theorem ending_eq (address : UInt32) :
    ending address = " : constant := " ++ literal address ++ ";" := rfl

theorem declaration_eq (width : Nat) (a : BaseAddress) :
    declaration width a = row width a ++ "\n" := by
  simp [declaration, row, ending_eq, String.append_assoc]

theorem map_declaration (width : Nat) (addresses : List BaseAddress) :
    addresses.map (declaration width) = (addresses.map (row width)).map (· ++ "\n") := by
  simp only [List.map_map, Function.comp_def, ← declaration_eq]

theorem text_eq (name : String) (addresses : List BaseAddress) :
    text name addresses = String.join ((packageLines name addresses).map (· ++ "\n")) := by
  have first : " is\n   pragma Pure;\n" = " is" ++ "\n" ++ "   pragma Pure;" ++ "\n" := rfl
  have last : ";\n" = ";" ++ "\n" ++ "" := rfl
  rw [text, map_declaration, first, last]
  simp only [packageLines, List.map_cons, List.map_append, List.map_nil, String.join_cons,
    String.join_append, String.join_nil, String.append_assoc]

theorem toList_ending (address : UInt32) : (ending address).toList =
    " : constant := ".toList ++ ((literal address).toList ++ [';']) := by
  simp only [ending_eq, String.toList_append, List.append_assoc]
  rfl

theorem length_ending (address : UInt32) : (ending address).toList.length = 29 := by
  rw [toList_ending, List.length_append, List.length_append, length_literal]
  rfl

theorem toList_row (width : Nat) (a : BaseAddress) : (row width a).toList =
    "   ".toList ++ ((padRight width a.constant).toList ++ (ending a.address).toList) := by
  rw [row, String.toList_append, String.toList_append, List.append_assoc]

theorem newline_notMem_row {a : BaseAddress} (h : '\n' ∉ a.constant.toList) (width : Nat) :
    '\n' ∉ (row width a).toList := by
  have digits (n : Nat) : '\n' ∉ Numeral.hexDigits 4 n :=
    Numeral.notMem_hexDigits (by decide)
  rw [toList_row, toList_ending, toList_literal, padRight]
  simp [h, digits]

theorem getLast?_append_mark (before : String) {mark : String} {c : Char}
    (h : mark.toList.getLast? = some c) : (before ++ mark).toList.getLast? = some c := by
  rw [String.toList_append, List.getLast?_append, h, Option.some_or]

section

variable {name : String} {addresses : List BaseAddress}

theorem newline_notMem_packageLines (one_line : '\n' ∉ name.toList)
    (names : ∀ a ∈ addresses, '\n' ∉ a.constant.toList) :
    ∀ line ∈ packageLines name addresses, '\n' ∉ line.toList := by
  simp only [packageLines, List.forall_mem_append, List.forall_mem_cons, List.forall_mem_map]
  refine ⟨⟨?_, by decide, fun a mem => newline_notMem_row (names a mem) _⟩, ?_, nofun⟩
  · simp [one_line]
  · simp [one_line]

theorem return_not_last_packageLines (name : String) (addresses : List BaseAddress) :
    ∀ line ∈ packageLines name addresses, line.toList.getLast? ≠ some '\r' := by
  have mark (before : String) : (before ++ ";").toList.getLast? ≠ some '\r' := by
    rw [getLast?_append_mark before rfl]
    decide
  simp only [packageLines, List.forall_mem_append, List.forall_mem_cons, List.forall_mem_map]
  refine ⟨⟨?_, by decide, fun a _ => ?_⟩, mark _, nofun⟩
  · rw [getLast?_append_mark _ rfl]
    decide
  · rw [row, ending_eq, ← String.append_assoc]
    exact mark _

/-- A package is cut into the lines that it is made of. -/
theorem lines_text (one_line : '\n' ∉ name.toList)
    (names : ∀ a ∈ addresses, '\n' ∉ a.constant.toList) :
    Text.lines (text name addresses).toList = (packageLines name addresses).map String.toList := by
  have chars : (text name addresses).toList =
      ((packageLines name addresses).map String.toList).flatMap (· ++ ['\n']) := by
    rw [text_eq, String.toList_join, List.flatMap_map, List.flatMap_map]
    simp only [String.toList_append]
    rfl
  rw [chars]
  apply Text.lines_flatMap
  · exact List.forall_mem_map.2 (newline_notMem_packageLines one_line names)
  · exact List.forall_mem_map.2 (return_not_last_packageLines name addresses)

end

/-! ## The column of the colons -/

theorem width_eq (addresses : List BaseAddress) :
    width addresses = (addresses.map (·.constant.utf8ByteSize)).max?.getD 0 := by
  rw [width, List.foldl_max, Nat.zero_max]

theorem le_width {a : BaseAddress} {addresses : List BaseAddress} (mem : a ∈ addresses) :
    a.constant.utf8ByteSize ≤ width addresses := by
  rw [width_eq]
  exact List.le_max?_getD_of_mem (List.mem_map_of_mem mem)

theorem width_lt {addresses : List BaseAddress} {bound : Nat} (positive : 0 < bound)
    (h : ∀ a ∈ addresses, a.constant.utf8ByteSize < bound) : width addresses < bound := by
  rw [width_eq]
  cases widest : (addresses.map (·.constant.utf8ByteSize)).max? with
  | none => exact positive
  | some size =>
    obtain ⟨mem, -⟩ := List.max?_eq_some_iff.1 widest
    obtain ⟨a, a_mem, rfl⟩ := List.mem_map.1 mem
    exact h a a_mem

theorem length_padRight {name : String} {width : Nat} (h : name.length ≤ width) :
    (padRight width name).length = width := by
  rw [padRight, String.length_append, String.length_ofList, List.length_replicate,
    Nat.add_sub_cancel' h]

/-- The colon stands behind three blanks and as many characters as the names are filled up to. -/
theorem exists_row_eq {a : BaseAddress} {width : Nat} (h : a.constant.length ≤ width) :
    ∃ before after, row width a = before ++ " : constant := 16#" ++ after ∧
      before.length = 3 + width := by
  refine ⟨"   " ++ padRight width a.constant,
    Numeral.hexPad 4 (a.address.toNat / 0x10000) ++ "_" ++
      Numeral.hexPad 4 (a.address.toNat % 0x10000) ++ "#" ++ ";", ?_, ?_⟩
  · have mark : " : constant := 16#" = " : constant := " ++ "16#" := rfl
    simp only [row, ending_eq, literal, mark, String.append_assoc]
  · rw [String.length_append, length_padRight h]
    rfl

/-! ## Reading a line -/

/-- The constant that a line declares.  Three blanks stand before its name, and 29 characters behind
the name and the blanks that fill it up. -/
def declared? (line : String) : Option BaseAddress := do
  let entry ← Text.dropPrefix? "   ".toList line.toList
  let (name, value) := entry.splitAt (entry.length - 29)
  let value ← Text.dropPrefix? " : constant := ".toList value
  let value ← Text.dropSuffix? [';'] value
  let address ← (Hexadecimal.parse (String.ofList value)).toOption
  return { constant := String.ofList (name.rdropWhile (· = ' ')), address }

theorem rdropWhile_replicate {cs : List Char} (h : cs.getLast? ≠ some ' ') (n : Nat) :
    (cs ++ List.replicate n ' ').rdropWhile (· = ' ') = cs := by
  induction n with
  | zero =>
    rw [List.replicate_zero, List.append_nil, List.rdropWhile_eq_self_iff]
    intro not_empty blank
    exact h (by simpa [List.getLast?_eq_some_getLast not_empty] using blank)
  | succ n ih =>
    rw [List.replicate_succ', ← List.append_assoc, List.rdropWhile_concat_pos _ _ _ (by simp), ih]

/-- A line gives the constant that it is made of. -/
theorem declared?_row {a : BaseAddress} (h : a.constant.toList.getLast? ≠ some ' ') (width : Nat) :
    declared? (row width a) = some a := by
  have padded : (padRight width a.constant).toList =
      a.constant.toList ++ List.replicate (width - a.constant.length) ' ' := by
    rw [padRight, String.toList_append, String.toList_ofList]
  have cut : ((padRight width a.constant).toList ++ (ending a.address).toList).splitAt
      (((padRight width a.constant).toList ++ (ending a.address).toList).length - 29) =
        ((padRight width a.constant).toList, (ending a.address).toList) := by
    rw [List.length_append, length_ending, Nat.add_sub_cancel, List.splitAt_eq, List.take_left,
      List.drop_left]
  have value : Text.dropPrefix? " : constant := ".toList (ending a.address).toList =
      some ((literal a.address).toList ++ [';']) := by
    rw [toList_ending, Text.dropPrefix?_append]
  simp only [declared?, toList_row, Text.dropPrefix?_append, cut, value, Text.dropSuffix?_concat,
    Option.bind_eq_bind, Option.bind_some, String.ofList_toList, parse_literal]
  rw [padded, rdropWhile_replicate h, String.ofList_toList]
  rfl

/-- A package of names without line breaks and without blanks at their ends has three lines more
than there are constants.  The colons stand in one column, three characters and the size of the
longest name in bytes behind the start of the line, and the lines of the constants give the
constants again, in their order. -/
theorem rows_read_back {name : String} {addresses : List BaseAddress}
    (one_line : '\n' ∉ name.toList)
    (names : ∀ a ∈ addresses, '\n' ∉ a.constant.toList ∧
      a.constant.toList.getLast? ≠ some ' ' ∧ a.constant.utf8ByteSize < 0x10000) :
    ∃ (text : String) (rows : List String), render name addresses = .ok text ∧
      (Text.lines text.toList).map String.ofList =
        ("package " ++ name ++ " is") :: "   pragma Pure;" :: rows ++ ["end " ++ name ++ ";"] ∧
      (Text.lines text.toList).length = addresses.length + 3 ∧
      (∀ widest ∈ (addresses.map (·.constant.utf8ByteSize)).max?, ∀ row ∈ rows,
        ∃ before after, row = before ++ " : constant := 16#" ++ after ∧
          before.length = 3 + widest) ∧
      rows.map declared? = addresses.map some := by
  have lines_eq := lines_text one_line fun a mem => (names a mem).1
  refine ⟨text name addresses, addresses.map (row (width addresses)),
    if_pos (width_lt (by decide) fun a mem => (names a mem).2.2), ?_, ?_, ?_, ?_⟩
  · rw [lines_eq, List.map_map]
    exact (List.map_congr_left fun line _ => String.ofList_toList).trans (List.map_id _)
  · simp [lines_eq, packageLines]
  · intro widest max
    obtain rfl : width addresses = widest := by rw [width_eq, max, Option.getD_some]
    rw [List.forall_mem_map]
    intro a mem
    exact exists_row_eq ((Bytes.length_le_utf8ByteSize a.constant).trans (le_width mem))
  · rw [List.map_map]
    exact List.map_congr_left fun a mem => declared?_row (names a mem).2.1 _

/-- The name with the most bytes does not have the most characters. -/
theorem rows_read_back_wide_characters :
    let addresses : List BaseAddress := [⟨"ééé", 0x11020⟩, ⟨"uart", 0xFFFFFFFF⟩]
    ∃ (text : String) (rows : List String), render "P" addresses = .ok text ∧
      (Text.lines text.toList).length = 5 ∧
      (∀ row ∈ rows, ∃ before after, row = before ++ " : constant := 16#" ++ after ∧
        before.length = 9) ∧
      rows.map declared? = addresses.map some := by
  intro addresses
  obtain ⟨text, rows, rendered, -, length, columns, again⟩ :=
    @rows_read_back "P" addresses (by decide) (by decide)
  exact ⟨text, rows, rendered, length, columns 6 (by decide), again⟩

end BareMetal.Design.AdaPackage

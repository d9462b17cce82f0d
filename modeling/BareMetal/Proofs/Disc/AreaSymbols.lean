import BareMetal.Proofs.Disc.Description

/-!
# Area symbols that are given again

Area symbols in their positional form may have blanks at their ends, which do not count in a
description, so a line with this form gives it again.  The one form with a blank inside, `J E`, is
refused for that blank.  The same holds of the area symbols that are read back from a header, with
the blanks that fill up their field (`areas_given_again`).
-/

namespace BareMetal.Disc

open Text

/-- What is read from a field of a header, with the blanks that fill it up. -/
def Field.text (f : Field) (data : Bytes) : String :=
  String.ofList ((Bytes.slice data f.offset f.length).toList.map fun b => Char.ofNat b.toNat)

namespace BootHeader

/-- A field other than the one with the check value is read back as its last value and blanks. -/
theorem Holds.text_eq {template : Bytes} {before after : List (Field × String)} {f : Field}
    {value : String} {built : Built} (holds : Holds template (before ++ (f, value) :: after) built)
    (last : ∀ later, (f, later) ∉ after) (other : f ≠ .deviceInfo)
    (ascii : Description.IsAscii value) (fits : value.length ≤ f.length) :
    f.text built.data =
      value ++ String.ofList (List.replicate (f.length - value.length) ' ') := by
  have size := Description.utf8ByteSize_of_isAscii ascii
  rw [← size] at fits ⊢
  have digits_apart : ∀ i < f.length, ¬ IsDigit (f.offset + i) := by
    rintro i hi ⟨low, high⟩
    have inside : f.Covers (f.offset + i) := ⟨by omega, by omega⟩
    exact other (inside.eq (g := .deviceInfo) ⟨low, Nat.lt_trans high (by decide)⟩)
  have content : Bytes.slice built.data f.offset f.length =
      Bytes.ofText value ++ Array.replicate (f.length - value.utf8ByteSize) 0x20 := by
    apply Array.ext_getElem?
    intro i
    rw [Bytes.getElem?_slice]
    by_cases hi : i < f.length
    · rw [if_pos hi, holds.last before f value after rfl last _ ⟨by omega, by omega⟩
        (digits_apart i hi), Nat.add_sub_cancel_left, getElem?_fieldContent fits hi]
    · rw [if_neg hi, Array.getElem?_eq_none]
      rw [size_fieldContent fits]
      exact Nat.not_lt.1 hi
  rw [Field.text, content, Array.toList_append, List.map_append, Bytes.map_ofNat_ofText ascii,
    Array.toList_replicate, List.map_replicate, String.ofList_append, String.ofList_toList]
  rfl

end BootHeader

namespace Description

/-! ## Lines among others -/

section

variable {line : List Char} {xs ys rest : List (List Char)} {p : Field × String}
  {values : List (Field × String)}

theorem gives_iff (number : Nat) : Gives line p ↔ readLine number (trim line) = .ok p :=
  ((Outcome.eq_iff_of_total (fun _ gives => gives.readLine_eq) (fun _ why => why.readLine_eq)
    (gives_or_refuses number line)).1 p).symm

theorem allGive_append_iff : AllGive (xs ++ ys) values ↔
    ∃ earlier later, AllGive xs earlier ∧ AllGive ys later ∧ values = earlier ++ later := by
  rw [AllGive, List.filter_append]
  constructor
  · intro give
    exact ⟨_, _, (List.forall₂_take_append _ _ _ give.flip).flip,
      (List.forall₂_drop_append _ _ _ give.flip).flip, (List.take_append_drop _ _).symm⟩
  · rintro ⟨earlier, later, first, second, rfl⟩
    exact List.rel_append first second

theorem allGive_cons_iff (some_char : ¬ AllBlank line) : AllGive (line :: rest) values ↔
    ∃ p later, Gives line p ∧ AllGive rest later ∧ values = p :: later := by
  rw [AllGive, List.filter_cons_of_pos (by simpa using some_char), List.forall₂_cons_left_iff]
  rfl

/-- A description of one line. -/
theorem parse_of_line (one : '\n' ∉ line) (some_char : ¬ AllBlank line) :
    parse (String.ofList line) = (readLine 1 (trim line)).map ([·]) := by
  have not_empty : line ≠ [] := by
    rintro rfl
    exact some_char nofun
  have lines_eq := (Lined.last one not_empty).eq_lines
  rw [parse_eq_readLines, String.toList_ofList, ← lines_eq, readLines_cons some_char]
  cases readLine 1 (trim line) <;> rfl

end

/-! ## Area symbols -/

/-- A line that gives area symbols. -/
def areasLine (given : String) : String := "Area Symbols: " ++ given

section

variable {v w given : String}

theorem not_allBlank_areasLine (given : String) : ¬ AllBlank (areasLine given).toList := by
  rw [areasLine, String.toList_append]
  exact fun blank => absurd (blank 'A' (List.mem_append_left _ (by decide))) (by decide)

theorem isEntry_areasLine (given : String) :
    IsEntry (areasLine given).toList Field.areaSymbols.name (String.ofList (trim given.toList)) := by
  refine ⟨"Area Symbols".toList, ' ' :: given.toList, ?_, by decide, ?_, ?_⟩
  · rw [areasLine, String.toList_append]
    rfl
  · exact trims_iff.2 (by decide)
  · have blank : AllBlank [' '] := List.forall_mem_singleton.2 rfl
    rw [String.toList_ofList, trims_iff]
    exact (trim_append_left blank given.toList).symm

theorem readLine_areasLine (number : Nat) (given : String) :
    readLine number (trim (areasLine given).toList) =
      (positionalAreas (String.ofList (trim given.toList))).map (Prod.mk .areaSymbols) := by
  simp only [(isEntry_areasLine given).readLine_eq, Field.find?_name, checkValue_areaSymbols]

theorem positionalAreas_eq_ok_iff : positionalAreas v = .ok w ↔ IsAreas v ∧ w =
    String.ofList [areaColumn 'J' v.toList, areaColumn 'U' v.toList, areaColumn 'E' v.toList] := by
  by_cases areas : IsAreas v
  · rw [positionalAreas_of_isAreas areas, Except.ok.injEq, eq_comm, and_iff_right areas]
  · rw [positionalAreas_of_not_isAreas areas]
    exact ⟨nofun, fun ⟨h, _⟩ => absurd h areas⟩

theorem areaColumn_eq_or_blank (letter : Char) (symbols : List Char) :
    areaColumn letter symbols = letter ∨ areaColumn letter symbols = ' ' := ite_eq_or_eq _ _ _

section

variable (positional : positionalAreas v = .ok w)
include positional

/-- There are eight positional forms, by the symbols that occur. -/
theorem positionalAreas_trim : positionalAreas (String.ofList (trim w.toList)) =
    if w = "J E" then .error (.invalidAreaSymbol w) else .ok w := by
  obtain ⟨-, rfl⟩ := positionalAreas_eq_ok_iff.1 positional
  have column (letter : Char) := areaColumn_eq_or_blank letter v.toList
  rcases column 'J' with j | j <;> rcases column 'U' with u | u <;>
    rcases column 'E' with e | e <;> rw [j, u, e] <;> decide

theorem eq_gap_iff : w = "J E" ↔ 'J' ∈ v.toList ∧ 'U' ∉ v.toList ∧ 'E' ∈ v.toList := by
  obtain ⟨-, rfl⟩ := positionalAreas_eq_ok_iff.1 positional
  have gap : "J E" = String.ofList ['J', ' ', 'E'] := rfl
  rw [gap, String.ofList_inj]
  simp [areaColumn]

theorem length_positional : w.length = 3 := by
  obtain ⟨-, rfl⟩ := positionalAreas_eq_ok_iff.1 positional
  exact String.length_ofList

theorem mem_positional : ∀ c ∈ w.toList, c ∈ ['J', 'U', 'E', ' '] := by
  obtain ⟨-, rfl⟩ := positionalAreas_eq_ok_iff.1 positional
  have column {letter : Char} (known : letter ∈ ['J', 'U', 'E', ' ']) :
      areaColumn letter v.toList ∈ ['J', 'U', 'E', ' '] := by
    rcases areaColumn_eq_or_blank letter v.toList with same | blank
    · rwa [same]
    · rw [blank]
      decide
  intro c mem
  simp only [String.toList_ofList, List.mem_cons, List.not_mem_nil, or_false] at mem
  rcases mem with rfl | rfl | rfl <;> exact column (by decide)

theorem isAscii_positional : IsAscii w := by
  intro c mem
  have known := mem_positional positional c mem
  simp only [List.mem_cons, List.not_mem_nil, or_false] at known
  rcases known with rfl | rfl | rfl | rfl <;> decide

variable (same : trim given.toList = trim w.toList)
include same

theorem gives_areasLine_iff {p : Field × String} :
    Gives (areasLine given).toList p ↔ w ≠ "J E" ∧ (.areaSymbols, w) = p := by
  rw [gives_iff 1, readLine_areasLine, same, positionalAreas_trim positional,
    Outcome.map_eq_ok_iff]
  by_cases gap : w = "J E" <;> simp [gap]

theorem parse_areasLine (one : '\n' ∉ given.toList) : parse (areasLine given) =
    if w = "J E" then .error (.invalidAreaSymbol w) else .ok [(.areaSymbols, w)] := by
  have one_line : '\n' ∉ (areasLine given).toList := by
    rw [areasLine, String.toList_append, List.mem_append]
    exact fun mem => mem.elim (by decide) one
  have parsed := parse_of_line one_line (not_allBlank_areasLine given)
  rw [String.ofList_toList, readLine_areasLine, same, positionalAreas_trim positional] at parsed
  rw [parsed]
  split_ifs <;> rfl

end

end

end Description

/-- The positional form of area symbols gives itself in whatever description it stands, unless it
has a blank between `J` and `E`, for which it is refused.  So does what is read back from a header
in which a description has set these area symbols. -/
theorem areas_given_again {v w : String} (positional : positionalAreas v = .ok w) :
    (w = "J E" ↔ 'J' ∈ v.toList ∧ 'U' ∉ v.toList ∧ 'E' ∈ v.toList) ∧
    (Description.parse ("Area Symbols: " ++ w) =
      if w = "J E" then .error (.invalidAreaSymbol w) else .ok [(.areaSymbols, w)]) ∧
    (∀ text before after,
      Lined text.toList (before ++ ("Area Symbols: " ++ w).toList :: after) → ∀ values,
        Description.parse text = .ok values ↔ w ≠ "J E" ∧ ∃ earlier later,
          Description.AllGive before earlier ∧ Description.AllGive after later ∧
            values = earlier ++ (.areaSymbols, w) :: later) ∧
    ∀ template text built earlier later, BootHeader.build template text = .ok built →
      built.values = earlier ++ (.areaSymbols, w) :: later →
      (∀ other, (.areaSymbols, other) ∉ later) →
      Description.parse ("Area Symbols: " ++ Field.areaSymbols.text built.data) =
        if w = "J E" then .error (.invalidAreaSymbol w) else .ok [(.areaSymbols, w)] := by
  have one_line : '\n' ∉ w.toList := fun mem =>
    absurd (Description.mem_positional positional _ mem) (by decide)
  refine ⟨Description.eq_gap_iff positional, Description.parse_areasLine positional rfl one_line,
    ?_, ?_⟩
  · intro text before after lined values
    have some_char := Description.not_allBlank_areasLine w
    rw [(Description.parse_eq_iff text).1, ← lined.eq_lines, Description.allGive_append_iff]
    constructor
    · rintro ⟨earlier, rest, first, others, rfl⟩
      obtain ⟨p, later, gives, second, rfl⟩ := (Description.allGive_cons_iff some_char).1 others
      obtain ⟨no_gap, rfl⟩ := (Description.gives_areasLine_iff positional rfl).1 gives
      exact ⟨no_gap, earlier, later, first, second, rfl⟩
    · rintro ⟨no_gap, earlier, later, first, second, rfl⟩
      have gives := (Description.gives_areasLine_iff positional rfl).2 ⟨no_gap, rfl⟩
      exact ⟨earlier, _, first,
        (Description.allGive_cons_iff some_char).2 ⟨_, later, gives, second, rfl⟩, rfl⟩
  · intro template text built earlier later built_ok values_eq last
    have holds := BootHeader.holds_of_build built_ok
    rw [values_eq] at holds
    have length := Description.length_positional positional
    have filled := holds.text_eq last (by decide) (Description.isAscii_positional positional)
      (by rw [length]; decide)
    rw [length] at filled
    refine Description.parse_areasLine positional ?_ ?_
    · rw [filled, String.toList_append, String.toList_ofList]
      refine trim_append_right (fun c mem => ?_) w.toList
      rw [List.eq_of_mem_replicate mem]
      rfl
    · rw [filled, String.toList_append, String.toList_ofList, List.mem_append]
      exact fun mem => mem.elim one_line (by decide)

/-- Area symbols without `J` are given again behind another line and from a header. -/
theorem areas_given_again_from_header :
    positionalAreas "EU" = .ok " UE" ∧
    Description.parse "Version: V1\r\nArea Symbols:  UE" =
      .ok [(.version, "V1"), (.areaSymbols, " UE")] ∧
    ∃ built, BootHeader.build (Bytes.zeros 32768) "Area Symbols: EU" = .ok built ∧
      Description.parse ("Area Symbols: " ++ Field.areaSymbols.text built.data) =
        .ok [(.areaSymbols, " UE")] := by
  have positional : positionalAreas "EU" = .ok " UE" := by decide
  obtain ⟨-, -, in_text, in_header⟩ := areas_given_again positional
  refine ⟨positional, ?_, ?_⟩
  · have lined : Lined "Version: V1\r\nArea Symbols:  UE".toList
        (["Version: V1".toList] ++ ("Area Symbols: " ++ " UE").toList :: []) :=
      lined_iff.2 (by decide +kernel)
    have gives : Description.Gives "Version: V1".toList (.version, "V1") :=
      (Description.gives_iff 1).2 (by decide +kernel)
    have some_char : ¬ AllBlank "Version: V1".toList :=
      fun blank => absurd (blank 'V' (by decide)) (by decide)
    have give : Description.AllGive ["Version: V1".toList] [(.version, "V1")] :=
      (Description.allGive_cons_iff some_char).2 ⟨_, [], gives, .nil, rfl⟩
    exact (in_text _ _ _ lined _).2 ⟨by decide, _, [], give, .nil, rfl⟩
  · have parsed : Description.parse "Area Symbols: EU" = .ok [(.areaSymbols, " UE")] := by
      decide +kernel
    have built_ok : BootHeader.build (Bytes.zeros 32768) "Area Symbols: EU" =
        .ok (BootHeader.finished (Bytes.zeros 32768) [(.areaSymbols, " UE")]) := by
      rw [BootHeader.build_of_size (Bytes.size_zeros 32768), parsed]
      rfl
    exact ⟨_, built_ok, in_header _ _ _ [] [] built_ok rfl nofun⟩

/-- The positional form of `J` and `E` is not read again. -/
theorem not_areas_given_again : ¬ ∀ v w, positionalAreas v = .ok w →
    Description.parse ("Area Symbols: " ++ w) = .ok [(.areaSymbols, w)] := by
  intro given_again
  have refused : Description.parse ("Area Symbols: " ++ "J E") =
      .error (.invalidAreaSymbol "J E") := by
    decide +kernel
  exact nomatch refused.symm.trans (given_again "EJ" "J E" (by decide))

end BareMetal.Disc

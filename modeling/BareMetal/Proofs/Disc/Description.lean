import BareMetal.Proofs.Disc.HeaderSlices
import BareMetal.Proofs.Text.Lines
import Mathlib.Data.List.Forall2

/-!
# What a description is accepted for

The lines of a description are judged one by one: what a line gives (`Description.Gives`) and why it
is refused (`Description.Refuses`) are said on the line as it stands in the text, with its blanks.
A description is accepted when each of its lines is blank or gives a value, and refused for its
first line that is neither (`parse_judges_lines`).
-/

namespace BareMetal.Disc

open Text

namespace Field

theorem find?_name (f : Field) : find? f.name = some f := by cases f <;> decide

theorem find?_eq_none {name : String} (unknown : ∀ f : Field, f.name ≠ name) :
    find? name = none :=
  List.find?_eq_none.2 fun f _ => by simpa using unknown f

end Field

namespace Description

/-! ## Judging a line -/

/-- A line is an entry: a name and what is given for it, without the blanks around them, stand on
the two sides of its first colon. -/
def IsEntry (line : List Char) (name given : String) : Prop :=
  ∃ before after, line = before ++ ':' :: after ∧ ':' ∉ before ∧
    Trims before name.toList ∧ Trims after given.toList

/-- All characters of a text are ASCII. -/
def IsAscii (text : String) : Prop := ∀ c ∈ text.toList, c.toNat < 128

/-- A text is made of area symbols. -/
def IsAreas (text : String) : Prop := ∀ c ∈ text.toList, c = 'J' ∨ c = 'U' ∨ c = 'E'

/-- What is given for a field, and the value that the header holds for it. -/
inductive Means : Field → String → String → Prop
  | areas {given : String} : IsAreas given → Means .areaSymbols given (String.ofList
      [areaColumn 'J' given.toList, areaColumn 'U' given.toList, areaColumn 'E' given.toList])
  | plain {f : Field} {given : String} : f ≠ .areaSymbols → IsAscii given →
      given.length ≤ f.length → Means f given given

/-- What is given for a field, and why the header cannot hold it. -/
inductive Unfit : Field → String → Error → Prop
  | areaSymbol {given : String} : ¬ IsAreas given →
      Unfit .areaSymbols given (.invalidAreaSymbol given)
  | notAscii {f : Field} {given : String} : f ≠ .areaSymbols → ¬ IsAscii given →
      Unfit f given (.notAscii f given)
  | tooLong {f : Field} {given : String} : f ≠ .areaSymbols → IsAscii given →
      f.length < given.length → Unfit f given (.fieldTooLong f given)

/-- A line gives a field a value. -/
def Gives (line : List Char) (p : Field × String) : Prop :=
  ∃ given, IsEntry line p.1.name given ∧ Means p.1 given p.2

/-- Why a line that is not blank gives no value.  The reasons exclude one another. -/
inductive Refuses (number : Nat) (line : List Char) : Error → Prop
  | malformed {inner : String} : ':' ∉ line → Trims line inner.toList →
      Refuses number line (.malformedLine number inner)
  | unknownField {name given : String} : IsEntry line name given → (∀ f : Field, f.name ≠ name) →
      Refuses number line (.unknownField name)
  | unfit {f : Field} {given : String} {e : Error} : IsEntry line f.name given → Unfit f given e →
      Refuses number line e

/-! ## Values -/

section

variable {f : Field} {given value : String} {e : Error}

theorem utf8ByteSize_of_isAscii (ascii : IsAscii given) : given.utf8ByteSize = given.length := by
  have one_byte : ∀ c ∈ given.toList, c.utf8Size = 1 := fun c mem =>
    Char.utf8Size_eq_one_iff.2 (Nat.le_of_lt_succ (ascii c mem))
  rw [← String.length_toList, ← Bytes.size_ofText_ofList one_byte, String.ofList_toList,
    Bytes.size_ofText]

theorem accept_of_isAscii (ascii : IsAscii given) : accept f given =
    if f.length < given.length then .error (.fieldTooLong f given) else .ok given := by
  have narrow : ¬ given.toList.any (fun c => 0x80 ≤ c.toNat) = true := by
    simpa [IsAscii] using ascii
  rw [accept, if_neg narrow, utf8ByteSize_of_isAscii ascii]

theorem accept_of_not_isAscii (wide : ¬ IsAscii given) :
    accept f given = .error (.notAscii f given) := by
  rw [accept, if_pos (by simpa [IsAscii] using wide)]

theorem positionalAreas_of_isAreas (areas : IsAreas given) : positionalAreas given =
    .ok (String.ofList [areaColumn 'J' given.toList, areaColumn 'U' given.toList,
      areaColumn 'E' given.toList]) := if_pos (by simpa [IsAreas, or_assoc] using areas)

theorem positionalAreas_of_not_isAreas (other : ¬ IsAreas given) :
    positionalAreas given = .error (.invalidAreaSymbol given) :=
  if_neg (by simpa [IsAreas, or_assoc] using other)

/-- Area symbols in their positional form are ASCII and fit their field. -/
theorem accept_areaColumns (symbols : List Char) :
    accept .areaSymbols (String.ofList
      [areaColumn 'J' symbols, areaColumn 'U' symbols, areaColumn 'E' symbols]) =
      .ok (String.ofList
        [areaColumn 'J' symbols, areaColumn 'U' symbols, areaColumn 'E' symbols]) := by
  unfold areaColumn
  split_ifs <;> rfl

theorem checkValue_areaSymbols (given : String) :
    checkValue .areaSymbols given = positionalAreas given := by
  rw [checkValue_eq, if_pos rfl]
  by_cases areas : IsAreas given
  · rw [positionalAreas_of_isAreas areas]
    exact Outcome.bind_eq_ok_iff.2 ⟨_, rfl, accept_areaColumns given.toList⟩
  · rw [positionalAreas_of_not_isAreas areas]
    rfl

theorem checkValue_of_ne (other : f ≠ .areaSymbols) (given : String) :
    checkValue f given = accept f given := by
  rw [checkValue_eq, if_neg other]
  rfl

theorem Means.checkValue_eq (h : Means f given value) : checkValue f given = .ok value := by
  cases h with
  | areas areas => rw [checkValue_areaSymbols, positionalAreas_of_isAreas areas]
  | plain other ascii fits =>
    rw [checkValue_of_ne other, accept_of_isAscii ascii, if_neg (Nat.not_lt.2 fits)]

theorem Unfit.checkValue_eq (h : Unfit f given e) : checkValue f given = .error e := by
  cases h with
  | areaSymbol other => rw [checkValue_areaSymbols, positionalAreas_of_not_isAreas other]
  | notAscii other wide => rw [checkValue_of_ne other, accept_of_not_isAscii wide]
  | tooLong other ascii long => rw [checkValue_of_ne other, accept_of_isAscii ascii, if_pos long]

/-- Whatever is given for a field means a value or is refused. -/
theorem means_or_unfit (f : Field) (given : String) :
    (∃ value, Means f given value) ∨ ∃ e, Unfit f given e := by
  by_cases area : f = .areaSymbols
  · subst area
    by_cases areas : IsAreas given
    · exact .inl ⟨_, .areas areas⟩
    · exact .inr ⟨_, .areaSymbol areas⟩
  · by_cases ascii : IsAscii given
    · rcases Nat.lt_or_ge f.length given.length with long | fits
      · exact .inr ⟨_, .tooLong area ascii long⟩
      · exact .inl ⟨_, .plain area ascii fits⟩
    · exact .inr ⟨_, .notAscii area ascii⟩

end

/-! ## Lines -/

section

variable {number : Nat} {line : List Char} {name given : String} {e : Error}

/-- A colon is not blank, so a line and the line without its blanks have the same colons. -/
theorem colon_mem_trim_iff : ':' ∈ trim line ↔ ':' ∈ line := by
  obtain ⟨front, back, line_eq, blank_front, blank_back, -⟩ := trims_trim line
  have not_front : ':' ∉ front := fun mem => absurd (blank_front _ mem) (by decide)
  have not_back : ':' ∉ back := fun mem => absurd (blank_back _ mem) (by decide)
  have mem_iff : ':' ∈ line ↔ ':' ∈ front ++ trim line ++ back := by rw [← line_eq]
  simp [mem_iff, not_front, not_back]

theorem exists_isEntry (colon : ':' ∈ line) : ∃ name given, IsEntry line name given := by
  obtain ⟨before, after, rfl, first⟩ := List.eq_append_cons_of_mem colon
  refine ⟨String.ofList (trim before), String.ofList (trim after), before, after, rfl, first,
    ?_, ?_⟩
  · simpa using trims_trim before
  · simpa using trims_trim after

theorem IsEntry.colon_mem (entry : IsEntry line name given) : ':' ∈ line := by
  obtain ⟨before, after, rfl, -⟩ := entry
  simp

/-- The two parts of an entry are found on the line without its blanks. -/
theorem IsEntry.exists_splitOnce (entry : IsEntry line name given) :
    ∃ before after, splitOnce ':' (trim line) = some (before, after) ∧
      trim before = name.toList ∧ trim after = given.toList := by
  obtain ⟨front, back, line_eq, blank_front, blank_back, -⟩ := trims_trim line
  obtain ⟨before, after, trimmed_eq, first⟩ :=
    List.eq_append_cons_of_mem (colon_mem_trim_iff.2 entry.colon_mem)
  obtain ⟨before', after', line_eq', first', trims_name, trims_given⟩ := entry
  -- the first colon of the trimmed line is the first one of the line
  have whole : splitOnce ':' line = some (front ++ before, after ++ back) := by
    rw [splitOnce_eq_some_iff]
    constructor
    · rw [line_eq, trimmed_eq]
      simp only [List.append_assoc, List.cons_append]
    · simp only [List.mem_append, first, or_false]
      exact fun mem => absurd (blank_front _ mem) (by decide)
  obtain ⟨rfl, rfl⟩ : front ++ before = before' ∧ after ++ back = after' := by
    rw [splitOnce_eq_some_iff.2 ⟨line_eq', first'⟩] at whole
    cases whole
    exact ⟨rfl, rfl⟩
  refine ⟨before, after, splitOnce_eq_some_iff.2 ⟨trimmed_eq, first⟩, ?_, ?_⟩
  · rw [trims_name.eq_trim, trim_append_left blank_front]
  · rw [trims_given.eq_trim, trim_append_right blank_back]

theorem IsEntry.readLine_eq (entry : IsEntry line name given) :
    readLine number (trim line) = match Field.find? name with
      | none => .error (.unknownField name)
      | some f => (checkValue f given).map (Prod.mk f) := by
  obtain ⟨before, after, split, name_eq, given_eq⟩ := entry.exists_splitOnce
  simp only [readLine, split, name_eq, given_eq, String.ofList_toList]
  cases Field.find? name with
  | none => rfl
  | some f => cases checkValue f given <;> rfl

theorem Gives.readLine_eq {p : Field × String} (h : Gives line p) :
    readLine number (trim line) = .ok p := by
  obtain ⟨given, entry, means⟩ := h
  simp only [entry.readLine_eq, Field.find?_name, means.checkValue_eq]
  rfl

theorem Refuses.readLine_eq (h : Refuses number line e) :
    readLine number (trim line) = .error e := by
  cases h with
  | malformed no_colon trims =>
    have none : splitOnce ':' (trim line) = none :=
      splitOnce_eq_none_iff.2 fun mem => no_colon (colon_mem_trim_iff.1 mem)
    rw [readLine, none, ← trims.eq_trim, String.ofList_toList]
  | unknownField entry unknown => rw [entry.readLine_eq, Field.find?_eq_none unknown]
  | unfit entry unfit =>
    simp only [entry.readLine_eq, Field.find?_name, unfit.checkValue_eq]
    rfl

/-- Every line gives a value or is refused. -/
theorem gives_or_refuses (number : Nat) (line : List Char) :
    (∃ p, Gives line p) ∨ ∃ e, Refuses number line e := by
  by_cases colon : ':' ∈ line
  · obtain ⟨name, given, entry⟩ := exists_isEntry colon
    by_cases known : ∃ f : Field, f.name = name
    · obtain ⟨f, rfl⟩ := known
      rcases means_or_unfit f given with ⟨value, means⟩ | ⟨e, unfit⟩
      · exact .inl ⟨(f, value), given, entry, means⟩
      · exact .inr ⟨e, .unfit entry unfit⟩
    · exact .inr ⟨_, .unknownField entry fun f same => known ⟨f, same⟩⟩
  · have trims : Trims line (String.ofList (trim line)).toList := by simpa using trims_trim line
    exact .inr ⟨_, .malformed colon trims⟩

end

/-! ## Reading the lines -/

/-- What is read of lines that are numbered from `number`. -/
def readLines (number : Nat) (lines : List (List Char)) : Except Error (List (Field × String)) :=
  (((lines.map trim).zipIdx number).filterMap fun (line, number) =>
    if line = [] then none else some (number, line)).mapM fun (number, line) => readLine number line

/-- The lines that are not blank give values, one each. -/
def AllGive (lines : List (List Char)) (values : List (Field × String)) : Prop :=
  List.Forall₂ Gives (lines.filter fun line => ¬ AllBlank line) values

/-- Why the first line that is neither blank nor gives a value is refused, where the lines are
numbered from `number`. -/
def FirstRefused (number : Nat) (lines : List (List Char)) (e : Error) : Prop :=
  ∃ before line after, lines = before ++ line :: after ∧
    (∀ l ∈ before, ¬ AllBlank l → ∃ p, Gives l p) ∧
    ¬ AllBlank line ∧ Refuses (number + before.length) line e

section

variable {number : Nat} {line : List Char} {rest lines : List (List Char)}
  {values : List (Field × String)} {e : Error}

theorem readLines_cons_of_allBlank (blank : AllBlank line) :
    readLines number (line :: rest) = readLines (number + 1) rest := by
  have none : trim line = [] := trim_eq_nil_iff.2 blank
  simp only [readLines, List.map_cons, List.zipIdx_cons, none]
  rfl

theorem readLines_cons (some_char : ¬ AllBlank line) : readLines number (line :: rest) =
    (readLine number (trim line) >>= fun p =>
      readLines (number + 1) rest >>= fun values => pure (p :: values)) := by
  have not_empty : trim line ≠ [] := fun none => some_char (trim_eq_nil_iff.1 none)
  simp only [readLines, List.map_cons, List.zipIdx_cons, List.filterMap_cons, if_neg not_empty,
    List.mapM_cons]

theorem FirstRefused.cons (h : FirstRefused (number + 1) rest e)
    (before : ¬ AllBlank line → ∃ p, Gives line p) : FirstRefused number (line :: rest) e := by
  obtain ⟨others, refused, after, rfl, give, some_char, why⟩ := h
  refine ⟨line :: others, refused, after, rfl, List.forall_mem_cons.2 ⟨before, give⟩, some_char, ?_⟩
  rwa [List.length_cons, Nat.add_comm others.length, ← Nat.add_assoc]

theorem AllGive.readLines_eq (h : AllGive lines values) : readLines number lines = .ok values := by
  induction lines generalizing number values with
  | nil =>
    cases h
    rfl
  | cons line rest ih =>
    by_cases blank : AllBlank line
    · rw [readLines_cons_of_allBlank blank]
      apply ih
      rwa [AllGive, List.filter_cons_of_neg (by simpa using blank)] at h
    · rw [AllGive, List.filter_cons_of_pos (by simpa using blank)] at h
      cases h with
      | cons gives give =>
        rw [readLines_cons blank, gives.readLine_eq, ih give]
        rfl

theorem FirstRefused.readLines_eq (h : FirstRefused number lines e) :
    readLines number lines = .error e := by
  obtain ⟨before, line, after, rfl, give, some_char, why⟩ := h
  induction before generalizing number with
  | nil =>
    have why : Refuses number line e := why
    rw [List.nil_append, readLines_cons some_char, why.readLine_eq]
    rfl
  | cons first others ih =>
    have refused : readLines (number + 1) (others ++ line :: after) = .error e := by
      refine ih (fun l mem => give l (List.mem_cons_of_mem first mem)) ?_
      rwa [Nat.add_assoc, Nat.add_comm 1]
    rw [List.cons_append]
    by_cases blank : AllBlank first
    · rw [readLines_cons_of_allBlank blank, refused]
    · obtain ⟨p, gives⟩ := give first List.mem_cons_self blank
      rw [readLines_cons blank, gives.readLine_eq, refused]
      rfl

/-- Either all lines give values, the blank ones aside, or there is a first one that does not. -/
theorem allGive_or_firstRefused (number : Nat) (lines : List (List Char)) :
    (∃ values, AllGive lines values) ∨ ∃ e, FirstRefused number lines e := by
  induction lines generalizing number with
  | nil => exact .inl ⟨[], .nil⟩
  | cons line rest ih =>
    by_cases blank : AllBlank line
    · rcases ih (number + 1) with ⟨values, give⟩ | ⟨e, refused⟩
      · refine .inl ⟨values, ?_⟩
        rwa [AllGive, List.filter_cons_of_neg (by simpa using blank)]
      · exact .inr ⟨e, refused.cons (absurd blank)⟩
    · rcases gives_or_refuses number line with ⟨p, gives⟩ | ⟨e, why⟩
      · rcases ih (number + 1) with ⟨values, give⟩ | ⟨e, refused⟩
        · refine .inl ⟨p :: values, ?_⟩
          rw [AllGive, List.filter_cons_of_pos (by simpa using blank)]
          exact .cons gives give
        · exact .inr ⟨e, refused.cons fun _ => ⟨p, gives⟩⟩
      · exact .inr ⟨e, [], line, rest, rfl, nofun, blank, why⟩

theorem exists_forall₂_iff {α β : Type} {R : α → β → Prop} {xs : List α} :
    (∃ ys, List.Forall₂ R xs ys) ↔ ∀ x ∈ xs, ∃ y, R x y := by
  induction xs with
  | nil => simp
  | cons x rest ih =>
    simp only [List.forall_mem_cons, ← ih, List.forall₂_cons_left_iff]
    constructor
    · rintro ⟨-, y, ys, first, others, rfl⟩
      exact ⟨⟨y, first⟩, ys, others⟩
    · rintro ⟨⟨y, first⟩, ys, others⟩
      exact ⟨y :: ys, y, ys, first, others, rfl⟩

theorem exists_allGive_iff : (∃ values, AllGive lines values) ↔
    ∀ line ∈ lines, ¬ AllBlank line → ∃ p, Gives line p := by
  simp only [AllGive, exists_forall₂_iff, List.mem_filter, decide_eq_true_eq, and_imp]

end

/-- A description is read line by line. -/
theorem parse_eq_readLines (text : String) :
    parse text = readLines 1 (Text.lines text.toList) := rfl

/-- What a description gives and why it is refused are told by its lines. -/
theorem parse_eq_iff (text : String) :
    (∀ values, parse text = .ok values ↔ AllGive (Text.lines text.toList) values) ∧
      ∀ e, parse text = .error e ↔ FirstRefused 1 (Text.lines text.toList) e := by
  rw [parse_eq_readLines]
  exact Outcome.eq_iff_of_total (fun _ give => give.readLines_eq)
    (fun _ refused => refused.readLines_eq) (allGive_or_firstRefused 1 _)

end Description

/-- A description is accepted when each of its lines is blank or gives a field a value, and its
values are those, in the order of the lines.  Otherwise it is refused for its first other line.  The
values fit their fields, so that a header is built, or refused, without a fault. -/
theorem parse_judges_lines (text : String) : ∃ lines, Lined text.toList lines ∧
    ((∃ values, Description.parse text = .ok values) ↔
      ∀ line ∈ lines, ¬ AllBlank line → ∃ p, Description.Gives line p) ∧
    (∀ values, Description.parse text = .ok values ↔ Description.AllGive lines values) ∧
    (∀ e, Description.parse text = .error e ↔ Description.FirstRefused 1 lines e) ∧
    (∀ values, Description.parse text = .ok values →
      ∀ p ∈ values, p.2.utf8ByteSize ≤ p.1.length) ∧
    ∀ template, BootHeader.buildChecked template text = .ok (BootHeader.build template text) := by
  obtain ⟨ok_iff, error_iff⟩ := Description.parse_eq_iff text
  refine ⟨lines text.toList, lined_lines text.toList, ?_, ok_iff, error_iff,
    fun _ => Description.size_le_of_parse, fun template => BootHeader.buildChecked_eq template text⟩
  rw [← Description.exists_allGive_iff]
  exact exists_congr ok_iff

/-- A description with a blank line, blanks around a colon and area symbols out of their order is
accepted, and one with a line without a colon is refused for that line. -/
theorem parse_judges_lines_of_two_texts :
    (∃ lines, Lined "Area Symbols : EJ\r\n\nVersion:\tV1".toList lines ∧
      Description.AllGive lines [(.areaSymbols, "J E"), (.version, "V1")]) ∧
    ∃ lines, Lined " \nVersion: V1\n no colon \n".toList lines ∧
      Description.FirstRefused 1 lines (.malformedLine 3 "no colon") := by
  constructor
  · obtain ⟨lines, lined, -, ok_iff, -⟩ := parse_judges_lines "Area Symbols : EJ\r\n\nVersion:\tV1"
    exact ⟨lines, lined, (ok_iff _).1 (by decide +kernel)⟩
  · obtain ⟨lines, lined, -, -, error_iff, -⟩ := parse_judges_lines " \nVersion: V1\n no colon \n"
    exact ⟨lines, lined, (error_iff _).1 (by decide +kernel)⟩

end BareMetal.Disc

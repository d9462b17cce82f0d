import BareMetal.Text.Blank
import BareMetal.Text.Split
import Mathlib.Data.List.TakeDrop
import Mathlib.Data.List.TakeWhile

/-!
# Prefixes, separators, lines and blanks

What the cuts of a text are, said apart from the functions that make them: a text and what follows
its start (`dropPrefix?_eq_some_iff`) or stands before its end (`dropSuffix?_eq_some_iff`), a text and
the two sides of its first separator (`splitOnce_eq_some_iff`), a text and its lines (`lined_iff`), a
text and what is left of it without the blanks at its ends (`trims_iff`).
-/

namespace BareMetal.Text

/-! ## Prefixes and suffixes -/

theorem dropPrefix?_eq_some_iff {mark cs rest : List Char} :
    dropPrefix? mark cs = some rest ↔ cs = mark ++ rest := by
  induction mark generalizing cs with
  | nil => simp [dropPrefix?]
  | cons m ms ih =>
    cases cs with
    | nil => simp [dropPrefix?]
    | cons c cs =>
      by_cases same : m = c
      · simp [dropPrefix?, same, ih]
      · simp [dropPrefix?, same, Ne.symm same]

theorem dropPrefix?_append (mark rest : List Char) :
    dropPrefix? mark (mark ++ rest) = some rest :=
  dropPrefix?_eq_some_iff.2 rfl

theorem dropSuffix?_eq_some_iff {mark cs rest : List Char} :
    dropSuffix? mark cs = some rest ↔ cs = rest ++ mark := by
  rw [dropSuffix?, Option.map_eq_some_iff]
  constructor
  · rintro ⟨reversed, found, rfl⟩
    have whole := congrArg List.reverse (dropPrefix?_eq_some_iff.1 found)
    rwa [List.reverse_reverse, List.reverse_append, List.reverse_reverse] at whole
  · rintro rfl
    exact ⟨rest.reverse, dropPrefix?_eq_some_iff.2 List.reverse_append, List.reverse_reverse rest⟩

theorem dropSuffix?_concat (cs : List Char) (c : Char) :
    dropSuffix? [c] (cs ++ [c]) = some cs :=
  dropSuffix?_eq_some_iff.2 rfl

theorem dropSuffix?_of_getLast? {cs : List Char} {c : Char} (h : cs.getLast? ≠ some c) :
    dropSuffix? [c] cs = none := by
  rw [Option.eq_none_iff_forall_ne_some]
  intro rest found
  rw [dropSuffix?_eq_some_iff.1 found] at h
  exact h List.getLast?_concat

theorem endsWith_iff {mark cs : List Char} : endsWith mark cs = true ↔ mark <:+ cs := by
  rw [endsWith, Option.isSome_iff_exists]
  constructor
  · rintro ⟨rest, found⟩
    exact ⟨rest, (dropSuffix?_eq_some_iff.1 found).symm⟩
  · rintro ⟨rest, rfl⟩
    exact ⟨rest, dropSuffix?_eq_some_iff.2 rfl⟩

/-! ## The first separator -/

section

variable {separator : Char} {cs before after : List Char}

theorem splitOnce_append (h : separator ∉ before) (after : List Char) :
    splitOnce separator (before ++ separator :: after) = some (before, after) := by
  have others : ∀ c ∈ before, decide (c ≠ separator) = true :=
    fun c mem => decide_eq_true (ne_of_mem_of_not_mem mem h)
  rw [splitOnce, List.span_eq_takeWhile_dropWhile, List.takeWhile_append_of_pos others,
    List.dropWhile_append_of_pos others]
  simp

theorem splitOnce_eq_none_iff : splitOnce separator cs = none ↔ separator ∉ cs := by
  constructor
  · intro none mem
    obtain ⟨before, after, rfl, outside⟩ := List.eq_append_cons_of_mem mem
    rw [splitOnce_append outside] at none
    cases none
  · intro outside
    have all : cs.dropWhile (· ≠ separator) = [] := List.dropWhile_eq_nil_iff.2
      fun c mem => decide_eq_true (ne_of_mem_of_not_mem mem outside)
    rw [splitOnce, List.span_eq_takeWhile_dropWhile, all]

theorem splitOnce_eq_some_iff : splitOnce separator cs = some (before, after) ↔
    cs = before ++ separator :: after ∧ separator ∉ before := by
  constructor
  · intro split
    have mem : separator ∈ cs := by
      by_contra outside
      rw [splitOnce_eq_none_iff.2 outside] at split
      cases split
    obtain ⟨before', after', rfl, outside⟩ := List.eq_append_cons_of_mem mem
    rw [splitOnce_append outside] at split
    cases split
    exact ⟨rfl, outside⟩
  · rintro ⟨rfl, outside⟩
    exact splitOnce_append outside after

end

/-! ## Lines -/

/-- A text and its lines.  A line ends with a line feed, and a carriage return right before that is
not part of it; what follows the last line feed is a line unless it is empty. -/
inductive Lined : List Char → List (List Char) → Prop
  | nil : Lined [] []
  | last {line : List Char} : '\n' ∉ line → line ≠ [] → Lined line [line]
  | feed {line rest : List Char} {lines : List (List Char)} : '\n' ∉ line →
      line.getLast? ≠ some '\r' → Lined rest lines → Lined (line ++ '\n' :: rest) (line :: lines)
  | returnFeed {line rest : List Char} {lines : List (List Char)} : '\n' ∉ line →
      Lined rest lines → Lined (line ++ '\r' :: '\n' :: rest) (line :: lines)

/-- The pieces are those into which a list is cut at an element. -/
theorem splitOn_eq (separator : Char) (cs : List Char) :
    splitOn separator cs = cs.splitOn separator := by
  induction cs with
  | nil => rfl
  | cons c cs ih =>
    obtain ⟨piece, rest, pieces⟩ := List.exists_cons_of_ne_nil (List.splitOn_ne_nil separator cs)
    rw [splitOn, pieces] at ih
    rw [splitOn, List.foldr_cons, ih, List.splitOn_cons_eq_if_modifyHead, pieces]
    by_cases same : c = separator <;> simp [same]

theorem splitOn_append_separator (separator : Char) (before after : List Char) :
    splitOn separator (before ++ separator :: after) =
      splitOn separator before ++ splitOn separator after := by
  rw [splitOn_eq, splitOn_eq, splitOn_eq, List.splitOn_append_cons_self]

theorem splitOn_of_notMem {separator : Char} {piece : List Char} (h : separator ∉ piece) :
    splitOn separator piece = [piece] := by
  rw [splitOn_eq, List.splitOn_eq_singleton h]

theorem splitOn_append {separator : Char} {piece : List Char} (h : separator ∉ piece)
    (rest : List Char) :
    splitOn separator (piece ++ separator :: rest) = piece :: splitOn separator rest := by
  rw [splitOn_append_separator, splitOn_of_notMem h, List.singleton_append]

theorem splitOn_ne_nil (separator : Char) (cs : List Char) : splitOn separator cs ≠ [] := by
  rw [splitOn_eq]
  exact List.splitOn_ne_nil separator cs

theorem notMem_of_mem_splitOn {separator : Char} {cs piece : List Char}
    (h : piece ∈ splitOn separator cs) : separator ∉ piece := by
  induction length : cs.length using Nat.strongRecOn generalizing cs with
  | ind n ih =>
    by_cases mem : separator ∈ cs
    · obtain ⟨before, after, rfl, outside⟩ := List.eq_append_cons_of_mem mem
      rw [splitOn_append outside] at h
      rcases List.mem_cons.1 h with rfl | later
      · exact outside
      · exact ih after.length (by simp at length; omega) later rfl
    · rw [splitOn_of_notMem mem, List.mem_singleton] at h
      rwa [h]

theorem lines_append {line : List Char} (h : '\n' ∉ line) (rest : List Char) :
    lines (line ++ '\n' :: rest) = dropReturn line :: lines rest := by
  have some_piece := splitOn_ne_nil '\n' rest
  rw [lines, lines, splitOn_append h, List.dropLast_cons_of_ne_nil some_piece,
    List.getLast?_cons_of_ne_nil some_piece, List.map_cons, List.cons_append]

theorem lines_of_notMem {line : List Char} (h : '\n' ∉ line) :
    lines line = [line].filter (· ≠ []) := by
  rw [lines, splitOn_of_notMem h]
  rfl

theorem dropReturn_append_return (line : List Char) : dropReturn (line ++ ['\r']) = line := by
  rw [dropReturn, if_pos (by simp), List.dropLast_concat]

theorem dropReturn_of_getLast? {line : List Char} (h : line.getLast? ≠ some '\r') :
    dropReturn line = line := if_neg h

theorem Lined.eq_lines {cs : List Char} {ls : List (List Char)} (h : Lined cs ls) :
    ls = lines cs := by
  induction h with
  | nil => rfl
  | last one some_char =>
    rw [lines_of_notMem one]
    simp [some_char]
  | feed one no_return _ ih => rw [lines_append one, dropReturn_of_getLast? no_return, ih]
  | @returnFeed line rest ls one _ ih =>
    have with_return : '\n' ∉ line ++ ['\r'] := by simp [one]
    have := lines_append with_return rest
    rw [List.append_assoc, List.singleton_append] at this
    rw [this, dropReturn_append_return, ih]

theorem lined_lines (cs : List Char) : Lined cs (lines cs) := by
  induction length : cs.length using Nat.strongRecOn generalizing cs with
  | ind n ih =>
    by_cases mem : '\n' ∈ cs
    · obtain ⟨line, rest, rfl, one⟩ := List.eq_append_cons_of_mem mem
      have rest_lined := ih rest.length (by simp at length; omega) rest rfl
      rw [lines_append one]
      by_cases last : line.getLast? = some '\r'
      · obtain ⟨before, rfl⟩ := List.getLast?_eq_some_iff.1 last
        rw [dropReturn_append_return, List.append_assoc, List.singleton_append]
        exact .returnFeed (fun mem => one (List.mem_append_left _ mem)) rest_lined
      · rw [dropReturn_of_getLast? last]
        exact .feed one last rest_lined
    · rw [lines_of_notMem mem]
      cases cs with
      | nil => exact .nil
      | cons c cs => exact .last mem (List.cons_ne_nil c cs)

/-- A text has the lines into which it is cut, and no others. -/
theorem lined_iff {cs : List Char} {ls : List (List Char)} : Lined cs ls ↔ ls = lines cs := by
  constructor
  · exact Lined.eq_lines
  · rintro rfl
    exact lined_lines cs

/-- No line holds a line feed. -/
theorem Lined.notMem {cs line : List Char} {ls : List (List Char)} (h : Lined cs ls)
    (mem : line ∈ ls) : '\n' ∉ line := by
  induction h with
  | nil => cases mem
  | last one _ => exact List.mem_singleton.1 mem ▸ one
  | feed one _ _ ih => exact (List.mem_cons.1 mem).elim (fun same => same ▸ one) ih
  | returnFeed one _ ih => exact (List.mem_cons.1 mem).elim (fun same => same ▸ one) ih

/-- Lines with a line feed behind each are the lines of the text that they make up. -/
theorem lines_flatMap {ls : List (List Char)} (one : ∀ line ∈ ls, '\n' ∉ line)
    (no_return : ∀ line ∈ ls, line.getLast? ≠ some '\r') :
    lines (ls.flatMap (· ++ ['\n'])) = ls := by
  have lined : Lined (ls.flatMap (· ++ ['\n'])) ls := by
    induction ls with
    | nil => exact .nil
    | cons line rest ih =>
      rw [List.forall_mem_cons] at one no_return
      rw [List.flatMap_cons, List.append_assoc, List.singleton_append]
      exact .feed one.1 no_return.1 (ih one.2 no_return.2)
  exact lined.eq_lines.symm

/-! ## Blanks at the ends -/

/-- All characters of a text are blank. -/
def AllBlank (cs : List Char) : Prop := ∀ c ∈ cs, isBlank c = true

instance (cs : List Char) : Decidable (AllBlank cs) :=
  inferInstanceAs (Decidable (∀ c ∈ cs, isBlank c = true))

/-- A text and what is left of it without the blanks at its ends. -/
def Trims (cs inner : List Char) : Prop :=
  ∃ before after, cs = before ++ inner ++ after ∧ AllBlank before ∧ AllBlank after ∧
    (∀ c ∈ inner.head?, isBlank c = false) ∧ ∀ c ∈ inner.getLast?, isBlank c = false

theorem Trims.isInfix {cs inner : List Char} (h : Trims cs inner) : inner <:+: cs := by
  obtain ⟨before, after, cs_eq, -⟩ := h
  exact ⟨before, after, cs_eq.symm⟩

theorem trimStart_append {before : List Char} (h : AllBlank before) (cs : List Char) :
    trimStart (before ++ cs) = trimStart cs := List.dropWhile_append_of_pos h

theorem trimStart_of_allBlank {cs : List Char} (h : AllBlank cs) : trimStart cs = [] :=
  List.dropWhile_eq_nil_iff.2 h

theorem trimStart_of_head? {cs : List Char} (h : ∀ c ∈ cs.head?, isBlank c = false) :
    trimStart cs = cs := by
  cases cs with
  | nil => rfl
  | cons c cs => exact List.dropWhile_cons_of_neg (by simpa using h)

theorem Trims.eq_trim {cs inner : List Char} (h : Trims cs inner) : inner = trim cs := by
  obtain ⟨before, after, rfl, blank_before, blank_after, first, last⟩ := h
  have reversed : ∀ c ∈ inner.reverse.head?, isBlank c = false := by rwa [List.head?_reverse]
  have blank_reversed : AllBlank after.reverse :=
    fun c mem => blank_after c (List.mem_reverse.1 mem)
  rw [trim, List.append_assoc, trimStart_append blank_before]
  cases inner with
  | nil =>
    rw [List.nil_append, trimStart_of_allBlank blank_after]
    rfl
  | cons c inner =>
    rw [trimStart_of_head? (by simpa using first), trimEnd, List.reverse_append,
      trimStart_append blank_reversed, trimStart_of_head? reversed, List.reverse_reverse]

theorem exists_trimStart (cs : List Char) : ∃ before, cs = before ++ trimStart cs ∧
    AllBlank before ∧ ∀ c ∈ (trimStart cs).head?, isBlank c = false := by
  refine ⟨cs.takeWhile isBlank, List.takeWhile_append_dropWhile.symm,
    fun c mem => List.mem_takeWhile_imp mem, fun c first => ?_⟩
  have := List.head?_dropWhile_not isBlank cs
  rw [show cs.dropWhile isBlank = trimStart cs from rfl, first] at this
  simpa using this

theorem trims_trim (cs : List Char) : Trims cs (trim cs) := by
  obtain ⟨before, cs_eq, blank_before, first⟩ := exists_trimStart cs
  obtain ⟨after, behind_eq, blank_after, last⟩ := exists_trimStart (trimStart cs).reverse
  have kept : trimStart cs = trim cs ++ after.reverse := by
    have := congrArg List.reverse behind_eq
    rwa [List.reverse_reverse, List.reverse_append] at this
  refine ⟨before, after.reverse, ?_, blank_before,
    fun c mem => blank_after c (List.mem_reverse.1 mem), fun c at_head => ?_, ?_⟩
  · rw [List.append_assoc, ← kept, ← cs_eq]
  · apply first
    rw [kept, List.head?_append, at_head]
    rfl
  · rw [trim, trimEnd, List.getLast?_reverse]
    exact last

/-- A text has one trimmed form. -/
theorem trims_iff {cs inner : List Char} : Trims cs inner ↔ inner = trim cs := by
  constructor
  · exact Trims.eq_trim
  · rintro rfl
    exact trims_trim cs

theorem trim_trim (cs : List Char) : trim (trim cs) = trim cs := by
  obtain ⟨-, -, -, -, -, ends⟩ := trims_trim cs
  exact (Trims.eq_trim ⟨[], [], (List.append_nil _).symm, nofun, nofun, ends⟩).symm

theorem trim_append_left {before : List Char} (h : AllBlank before) (cs : List Char) :
    trim (before ++ cs) = trim cs := by
  rw [trim, trimStart_append h, trim]

theorem trim_append_right {after : List Char} (h : AllBlank after) (cs : List Char) :
    trim (cs ++ after) = trim cs := by
  obtain ⟨front, back, cs_eq, blank_front, blank_back, ends⟩ := trims_trim cs
  refine (Trims.eq_trim ⟨front, back ++ after, ?_, blank_front, fun c mem => ?_, ends⟩).symm
  · rw [← List.append_assoc, ← cs_eq]
  · exact (List.mem_append.1 mem).elim (blank_back c) (h c)

theorem trim_eq_nil_iff {cs : List Char} : trim cs = [] ↔ AllBlank cs := by
  constructor
  · intro none
    obtain ⟨before, after, cs_eq, blank_before, blank_after, -⟩ := trims_trim cs
    rw [none, List.append_nil] at cs_eq
    rw [cs_eq]
    exact fun c mem => (List.mem_append.1 mem).elim (blank_before c) (blank_after c)
  · intro blank
    rw [trim, trimStart_of_allBlank blank]
    rfl

end BareMetal.Text

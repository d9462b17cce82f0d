import BareMetal.Proofs.Text.Lines
import BareMetal.Target.Download

/-!
# Lists of commands

The commands of a list are what stands between its semicolons, without the blanks around it.  Lists
with a semicolon between them give the commands of the one and then those of the other
(`splitCommands_append`), so each entry of a list gives its command whatever the others are, and an
entry of blanks gives none (`splitCommands_joinWith`).  Commands that are joined again are the
commands of that list (`splitCommands_keeps_commands`).
-/

namespace BareMetal.Target.Download

open Text

/-- The commands in the entries of a list. -/
def commandsOf (entries : List (List Char)) : List String :=
  ((entries.map trim).filter (· ≠ [])).map String.ofList

theorem splitCommands_eq (list : String) :
    splitCommands list = commandsOf (splitOn ';' list.toList) := rfl

theorem commandsOf_append (entries others : List (List Char)) :
    commandsOf (entries ++ others) = commandsOf entries ++ commandsOf others := by
  simp only [commandsOf, List.map_append, List.filter_append]

theorem commandsOf_singleton {entry : List Char} {command : String}
    (trims : Trims entry command.toList) : commandsOf [entry] = [command].filter (· ≠ "") := by
  rw [commandsOf, List.map_singleton, ← trims.eq_trim]
  by_cases empty : command = "" <;> simp [empty]

theorem splitCommands_append (a b : String) :
    splitCommands (a ++ ";" ++ b) = splitCommands a ++ splitCommands b := by
  have text : (a ++ ";" ++ b).toList = a.toList ++ ';' :: b.toList := by
    simp [String.toList_append]
  rw [splitCommands_eq, text, splitOn_append_separator, commandsOf_append]
  rfl

theorem splitCommands_of_trims {entry command : String} (one : ';' ∉ entry.toList)
    (trims : Trims entry.toList command.toList) :
    splitCommands entry = [command].filter (· ≠ "") := by
  rw [splitCommands_eq, splitOn_of_notMem one, commandsOf_singleton trims]

/-- Each entry of a list gives its command, and none if it is blank. -/
theorem splitCommands_joinWith {entries : List (String × String)}
    (trims : ∀ e ∈ entries, ';' ∉ e.1.toList ∧ Trims e.1.toList e.2.toList) :
    splitCommands (joinWith ";" (entries.map Prod.fst)) =
      (entries.map Prod.snd).filter (· ≠ "") := by
  induction entries with
  | nil => rfl
  | cons e rest ih =>
    have first := splitCommands_of_trims (trims e (by simp)).1 (trims e (by simp)).2
    have others := ih fun e' mem => trims e' (by simp [mem])
    cases rest with
    | nil => exact first
    | cons e' rest =>
      have joined : joinWith ";" ((e :: e' :: rest).map Prod.fst) =
          e.1 ++ ";" ++ joinWith ";" ((e' :: rest).map Prod.fst) := String.intercalate_cons_cons
      rw [joined, splitCommands_append, first, others, ← List.filter_append, List.map_cons]
      rfl

/-- A command of a list is not empty, and has neither a semicolon in it nor blanks around it. -/
theorem of_mem_splitCommands {list command : String} (mem : command ∈ splitCommands list) :
    command ≠ "" ∧ ';' ∉ command.toList ∧ trim command.toList = command.toList := by
  simp only [splitCommands, List.mem_map, List.mem_filter] at mem
  obtain ⟨_, ⟨⟨entry, entry_mem, rfl⟩, some_char⟩, rfl⟩ := mem
  have not_empty : trim entry ≠ [] := by simpa using some_char
  refine ⟨?_, ?_, ?_⟩
  · simpa using not_empty
  · obtain ⟨before, after, entry_eq, -⟩ := trims_trim entry
    rw [String.toList_ofList]
    intro inside
    refine notMem_of_mem_splitOn entry_mem ?_
    rw [entry_eq]
    exact List.mem_append_left _ (List.mem_append_right _ inside)
  · rw [String.toList_ofList, trim_trim]

/-- The commands of two lists are those of the one and then those of the other.  No command is
empty, has a semicolon in it or blanks around it, and commands that are joined again are read as
they are.  So are commands with blanks around them and empty entries between them. -/
theorem splitCommands_keeps_commands (a b s : String) :
    splitCommands (a ++ ";" ++ b) = splitCommands a ++ splitCommands b ∧
    (∀ c ∈ splitCommands s, c ≠ "" ∧ ';' ∉ c.toList ∧ trim c.toList = c.toList) ∧
    splitCommands (joinWith ";" (splitCommands s)) = splitCommands s ∧
    ∀ entries : List (String × String),
      (∀ e ∈ entries, ';' ∉ e.1.toList ∧ Trims e.1.toList e.2.toList) →
      splitCommands (joinWith ";" (entries.map Prod.fst)) =
        (entries.map Prod.snd).filter (· ≠ "") := by
  refine ⟨splitCommands_append a b, fun c => of_mem_splitCommands, ?_,
    fun entries => splitCommands_joinWith⟩
  -- a command is an entry without blanks around it
  have trims : ∀ e ∈ (splitCommands s).map fun c => (c, c),
      ';' ∉ e.1.toList ∧ Trims e.1.toList e.2.toList := by
    rw [List.forall_mem_map]
    intro c mem
    obtain ⟨-, one, trimmed⟩ := of_mem_splitCommands mem
    exact ⟨one, trims_iff.2 trimmed.symm⟩
  have again := splitCommands_joinWith trims
  simp only [List.map_map, Function.comp_def, List.map_id'] at again
  rw [again, List.filter_eq_self]
  intro c mem
  exact decide_eq_true (of_mem_splitCommands mem).1

/-- Two commands with blanks around the second and an entry of a blank between them. -/
theorem splitCommands_keeps_commands_among_blanks :
    let list := "reset halt; ;\u00a0flash probe 0\t"
    splitCommands list = ["reset halt", "flash probe 0"] ∧
    "flash probe 0" ∈ splitCommands list ∧ ';' ∉ "flash probe 0".toList ∧
    splitCommands "reset halt;flash probe 0" = ["reset halt", "flash probe 0"] := by
  intro list
  obtain ⟨-, proper, again, among⟩ := splitCommands_keeps_commands "" "" list
  have commands : splitCommands list = ["reset halt", "flash probe 0"] :=
    among [("reset halt", "reset halt"), (" ", ""), ("\u00a0flash probe 0\t", "flash probe 0")]
      (by simp only [List.forall_mem_cons, trims_iff]; decide)
  rw [commands] at proper again ⊢
  exact ⟨rfl, by simp, (proper _ (by simp)).2.1, again⟩

end BareMetal.Target.Download

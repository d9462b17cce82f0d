import BareMetal.Proofs.Text.Lines
import BareMetal.Target.Profile

/-!
# What a download tells and what it does

A download begins with its settings, the commands that set the variables of the configuration
scripts.  No setting can be taken for one of another variable, whatever the values are
(`setCommand_inj`), so each variable is set to one value (`sets_iff`).  What a download does behind
them is what these values say (`steps_follow_settings`).
-/

namespace BareMetal.Target.Download

/-- The settings, which are the first five steps, set a variable to a value. -/
def Sets (steps : List Step) (name value : String) : Prop :=
  .command ("set " ++ name ++ " " ++ value ++ " ; list") ∈ steps.take 5

instance (steps : List Step) (name value : String) : Decidable (Sets steps name value) :=
  inferInstanceAs (Decidable (_ ∈ steps.take 5))

/-- The variables of the configuration scripts and their values. -/
def assignments (d : Download) : List (String × String) :=
  [("sweetada_elf", quote d.elf), ("start_address", d.startAddress), ("debug_mode", flag d.debug),
    ("noload_flag", flag d.noload), ("noexec_flag", flag d.holdsStart)]

theorem take_steps (d : Download) : d.steps.take 5 =
    d.assignments.map fun (name, value) => .command (setCommand name value) := rfl

theorem setCommand_inj {name value name' value' : String} (h : ' ' ∉ name.toList)
    (h' : ' ' ∉ name'.toList) :
    setCommand name value = setCommand name' value' ↔ name = name' ∧ value = value' := by
  have chars (name value : String) : (setCommand name value).toList =
      "set ".toList ++ (name.toList ++ ' ' :: (value.toList ++ " ; list".toList)) := by
    simp [setCommand]
  constructor
  · intro same
    have same := congrArg String.toList same
    rw [chars, chars, List.append_cancel_left_eq] at same
    have sides := congrArg (Text.splitOnce ' ') same
    rw [Text.splitOnce_append h, Text.splitOnce_append h', Option.some.injEq, Prod.mk.injEq,
      List.append_cancel_right_eq, String.toList_inj, String.toList_inj] at sides
    exact sides
  · rintro ⟨rfl, rfl⟩
    rfl

/-- A variable is set to the value that it has and to no other. -/
theorem sets_iff {d : Download} {name value : String} (h : ' ' ∉ name.toList) :
    Sets d.steps name value ↔ (name, value) ∈ d.assignments := by
  have no_blank : ∀ x ∈ d.assignments, ' ' ∉ x.1.toList := by
    simp only [assignments, List.forall_mem_cons]
    decide
  have command : "set " ++ name ++ " " ++ value ++ " ; list" = setCommand name value := rfl
  rw [Sets, take_steps, command, List.mem_map]
  constructor
  · rintro ⟨⟨name', value'⟩, mem, same⟩
    obtain ⟨rfl, rfl⟩ := (setCommand_inj (no_blank _ mem) h).1 (Step.command.inj same)
    exact mem
  · intro mem
    exact ⟨_, mem, rfl⟩

section

variable (d : Download) (value : String)

theorem sets_elf_iff : Sets d.steps "sweetada_elf" value ↔ value = quote d.elf := by
  rw [sets_iff (by decide)]
  simp [assignments]

theorem sets_startAddress_iff : Sets d.steps "start_address" value ↔ value = d.startAddress := by
  rw [sets_iff (by decide)]
  simp [assignments]

theorem zero_eq_flag_iff {b : Bool} : "0" = flag b ↔ ¬ b := by cases b <;> decide

theorem sets_noload_iff : Sets d.steps "noload_flag" "0" ↔ ¬ d.noload := by
  rw [sets_iff (by decide)]
  simp [assignments, zero_eq_flag_iff]

theorem sets_noexec_iff : Sets d.steps "noexec_flag" "0" ↔ ¬ d.holdsStart := by
  rw [sets_iff (by decide)]
  simp [assignments, zero_eq_flag_iff]

/-- Behind the settings, the kernel is loaded and started as they say. -/
theorem drop_steps : d.steps.drop 5 =
    d.commandFile.toList.map (fun file => .command ("source " ++ quote file)) ++
      d.commands.map .command ++ d.preLoad.map .command ++ d.settle.toList.map .settle ++
      (if Sets d.steps "noload_flag" "0" then [.command d.loadCommand] else []) ++
      (if Sets d.steps "noexec_flag" "0" then [.command d.startCommand] else []) ++
      d.postLoad.map .command := by
  simp only [sets_noload_iff, sets_noexec_iff, ite_not]
  rfl

end

/-- A download on a target sets the five variables and then does what they say.  The configuration
file is read first, then the commands of the download and those of the target before loading are
sent, with a pause behind them if the target has one.  The kernel is loaded when the flag against
that is set to 0, from the file that the settings name, and started when the flag against that is
set to 0, which in debug mode it never is, at the address that the settings name.  The commands for
afterwards come last, and there are no other steps. -/
theorem steps_follow_settings (p : Profile) (d : Download) :
    let steps := (p.apply d).steps
    steps.take 5 = [
      .command ("set sweetada_elf \"" ++ d.elf ++ "\" ; list"),
      .command ("set start_address " ++ d.startAddress ++ " ; list"),
      .command ("set debug_mode " ++ flag d.debug ++ " ; list"),
      .command ("set noload_flag " ++ flag d.noload ++ " ; list"),
      .command ("set noexec_flag " ++ flag (d.noexec || d.debug) ++ " ; list")] ∧
    (Sets steps "noload_flag" "0" ↔ ¬ d.noload) ∧
    (Sets steps "noexec_flag" "0" ↔ ¬ d.noexec ∧ ¬ d.debug) ∧
    ∃ elf address, (∀ value, Sets steps "sweetada_elf" value ↔ value = elf) ∧
      (∀ value, Sets steps "start_address" value ↔ value = address) ∧
      steps.drop 5 =
        d.commandFile.toList.map (fun file => .command ("source \"" ++ file ++ "\"")) ++
          d.commands.map .command ++ d.preLoad.map .command ++ p.preLoad.map .command ++
          p.settleMs.toList.map .settle ++
          (if Sets steps "noload_flag" "0" then [.command ("load_image " ++ elf)] else []) ++
          (if Sets steps "noexec_flag" "0" then [.command ("resume " ++ address)] else []) ++
          d.postLoad.map .command ++ p.postLoad.map .command := by
  intro steps
  have elf_setting : setCommand "sweetada_elf" (quote d.elf) =
      "set sweetada_elf \"" ++ d.elf ++ "\" ; list" := by
    simp [setCommand, quote, ← String.toList_inj]
  have source (file : String) : "source \"" ++ file ++ "\"" = "source " ++ quote file :=
    String.append_assoc
  refine ⟨?settings, sets_noload_iff _, ?starts, quote d.elf, d.startAddress,
    sets_elf_iff _, sets_startAddress_iff _, ?actions⟩
  case settings =>
    rw [← elf_setting]
    rfl
  case starts =>
    rw [sets_noexec_iff, holdsStart, Bool.or_eq_true, not_or]
    rfl
  case actions =>
    rw [drop_steps]
    simp only [source, loadCommand, startCommand, Profile.apply, List.map_append,
      List.append_assoc]
    rfl

end BareMetal.Target.Download

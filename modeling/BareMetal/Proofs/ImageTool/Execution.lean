import Mathlib.Data.List.Forall2
import BareMetal.Proofs.Disc.BootHeader
import BareMetal.Proofs.ImageTool.Writing

/-!
# What the image tool leaves behind

Unless an output cannot be written, the tool makes all of its outputs or changes nothing
(`execute_all_or_nothing`).
-/

namespace BareMetal.ImageTool

open Host Run

/-! ## Ends of runs -/

theorem ofOutcome_status_eq_zero_iff {t : CommandLine.Tool} {w : World}
    {outcome : Except Failure Unit} :
    (Exit.ofOutcome t w outcome).status = 0 ↔ outcome = .ok () := by
  rcases outcome with (causes | f) | u
  · exact ⟨nofun, nofun⟩
  · exact ⟨nofun, nofun⟩
  · exact ⟨fun _ => rfl, fun _ => rfl⟩

theorem ofOutcome_files (t : CommandLine.Tool) (w : World) (outcome : Except Failure Unit) :
    (Exit.ofOutcome t w outcome).world.files = w.files := by
  rcases outcome with (causes | f) | u <;> rfl

theorem ofRefusal_files (t : CommandLine.Tool) (w : World) (refusal : CommandLine.Refusal) :
    (Exit.ofRefusal t w refusal).world.files = w.files := by
  unfold Exit.ofRefusal
  split <;> rfl

theorem startLog_files (w : World) : w.startLog.files = w.files := by
  unfold World.startLog
  generalize w.logFilter.warnings = warnings
  induction warnings generalizing w with
  | nil => rfl
  | cons warning rest ih => exact ih _

theorem execute_of_ok {arguments : List String} {w : World} {o : Options}
    (parsed : Options.parse w.environment arguments = .ok o) :
    execute arguments w = Exit.ofOutcome tool (run o w.startLog).2 (run o w.startLog).1 := by
  rw [execute, parsed]
  rfl

/-! ## Runs -/

/-- The run fails when it writes one of its outputs. -/
def FailsToWrite (o : Options) (w : World) : Prop :=
  ∃ path ∈ o.job.outputs, ∃ causes w',
    run o w = (.error (.chain (writeFailure path :: causes)), w')

/-- A refused command line changes no file.  Any other run with ready boot code that writes to
files, and does not fail in writing one of them, changes no file if it fails; if it succeeds, all
its outputs hold what is made of the files as they were before, and nothing else is changed. -/
theorem execute_all_or_nothing (arguments : List String) (w : World) :
    (∀ refusal, Options.parse w.environment arguments = .error refusal →
      (execute arguments w).world.files = w.files) ∧
    ∀ o, Options.parse w.environment arguments = .ok o → o.job.isPrebuilt = true →
      ((execute arguments w).status ≠ 0 →
        (o.contents? w.files = none ∧ (execute arguments w).world.files = w.files) ∨
          FailsToWrite o w.startLog) ∧
      ((execute arguments w).status = 0 →
        ∃ contents, o.contents? w.files = some contents ∧
          (LeadApart w.files o.job.outputs →
            List.Forall₂
              (fun path content => (execute arguments w).world.files.read path = .ok content)
              o.job.outputs contents ∧
            ∀ l, (∀ path ∈ o.job.outputs, w.files.locate path ≠ .ok l) →
              (execute arguments w).world.files.node? l = w.files.node? l)) := by
  constructor
  · intro refusal refused
    have refused_run : execute arguments w = Exit.ofRefusal tool w.startLog refusal := by
      rw [execute, refused]
      rfl
    rw [refused_run, ofRefusal_files, startLog_files]
  intro o parsed prebuilt
  rw [execute_of_ok parsed, ofOutcome_files, Ne, ofOutcome_status_eq_zero_iff]
  rcases publishes_run prebuilt w.startLog (startLog_files w) with
    ⟨nothing, ⟨e, failed⟩, kept⟩ | ⟨contents, between, found, each, kept, writes⟩
  · constructor
    · intro _
      exact Or.inl ⟨nothing, kept⟩
    · intro succeeded
      exact nomatch failed.symm.trans succeeded
  rcases outcome : run o w.startLog with ⟨e | u, after⟩
  · refine ⟨fun _ => Or.inr ?_, nofun⟩
    obtain ⟨path, mem, causes, rfl⟩ := writeAll_error (writes.symm.trans outcome)
    rw [List.map_fst_zip (Nat.le_of_eq each.symm)] at mem
    exact ⟨path, mem, causes, after, outcome⟩
  · refine ⟨fun failed => absurd rfl failed, fun _ => ⟨contents, found, fun apart => ?_⟩⟩
    have paths : (o.job.outputs.zip contents).map (·.1) = o.job.outputs :=
      List.map_fst_zip (Nat.le_of_eq each.symm)
    have published : Published between.files after.files (o.job.outputs.zip contents) := by
      refine writeAll_ok ?_ (writes.symm.trans outcome)
      rw [paths, kept]
      exact apart
    rw [kept] at published
    refine ⟨List.forall₂_iff_zip.2 ⟨each.symm, fun mem => published.read _ mem⟩, ?_⟩
    rw [← paths]
    exact published.kept

/-- A memory image takes the place of its own input; a run without an input and one without
arguments change nothing. -/
theorem execute_all_or_nothing_in_place :
    let w : World := { files :=
      { nodes := systemNodes ++ [(workingDirectory ++ ["i"], .file #[0x41] false)] } }
    ((execute ["logisim", "i", "./i"] w).world.files.read "./i" =
        .ok (Bytes.ofText "v2.0 raw\n\n41\n") ∧
      (execute ["logisim", "i", "./i"] w).world.files.node? ["bin"] =
        some (.link programDirectory)) ∧
    (execute ["logisim", "j", "i"] w).world.files = w.files ∧
    (execute [] w).world.files = w.files := by
  intro w
  refine ⟨?_, ?_, ?_⟩
  · have parsed : Options.parse w.environment ["logisim", "i", "./i"] =
        .ok ⟨{}, .memoryImage "i" (some "./i")⟩ := by
      decide +kernel
    have made : Options.contents? ⟨{}, .memoryImage "i" (some "./i")⟩ w.files =
        some [Bytes.ofText "v2.0 raw\n\n41\n"] := by
      decide +kernel
    have leads : w.files.locate "./i" = .ok (workingDirectory ++ ["i"]) := by decide +kernel
    have apart : LeadApart w.files ["./i"] := by
      refine ⟨fun path mem => ?_, List.pairwise_singleton _ _⟩
      obtain rfl := List.mem_singleton.1 mem
      exact ⟨_, leads, by decide +kernel⟩
    obtain ⟨contents, found, written⟩ :=
      ((execute_all_or_nothing ["logisim", "i", "./i"] w).2 _ parsed rfl).2 (by decide +kernel)
    obtain rfl := Option.some.inj (made.symm.trans found)
    obtain ⟨holds, kept⟩ := written apart
    refine ⟨(List.forall₂_cons.1 holds).1, (kept ["bin"] ?_).trans (by decide +kernel)⟩
    intro path mem leads'
    obtain rfl := List.mem_singleton.1 mem
    exact absurd (leads.symm.trans leads') (by decide)
  · have parsed : Options.parse w.environment ["logisim", "j", "i"] =
        .ok ⟨{}, .memoryImage "j" (some "i")⟩ := by
      decide +kernel
    rcases ((execute_all_or_nothing ["logisim", "j", "i"] w).2 _ parsed rfl).1
      (by decide +kernel) with ⟨-, kept⟩ | ⟨path, mem, causes, w', failed⟩
    · exact kept
    · have failure : (run ⟨{}, .memoryImage "j" (some "i")⟩ w.startLog).1 =
          .error (.chain ["Failed to read j", "No such file or directory (os error 2)"]) := by
        decide +kernel
      rw [failed] at failure
      obtain rfl := List.mem_singleton.1 mem
      have same_causes := Failure.chain.inj (Except.error.inj failure)
      exact absurd (List.cons.inj same_causes).1 (by decide +kernel)
  · have refused : Options.parse w.environment [] = .error .displayHelpOnMissing := by
      decide +kernel
    exact (execute_all_or_nothing [] w).1 _ refused

/-- Two paths that differ may lead to one file, which cannot hold two contents. -/
theorem not_execute_all_or_nothing_of_ne :
    ¬ ∀ arguments (w : World) o, Options.parse w.environment arguments = .ok o →
      o.job.isPrebuilt = true → o.job.outputs.Nodup →
      (∀ path ∈ o.job.outputs, ∃ l, w.files.locate path = .ok l ∧ w.files.TakesFile l) →
      (execute arguments w).status = 0 →
      ∀ contents, o.contents? w.files = some contents →
        List.Forall₂
          (fun path content => (execute arguments w).world.files.read path = .ok content)
          o.job.outputs contents := by
  intro claimed
  let template : Bytes := Array.replicate 32768 0
  let w : World := { files :=
    { nodes := systemNodes ++ [(workingDirectory ++ ["t"], .file template false),
      (workingDirectory ++ ["i"], .file #[] false),
      (workingDirectory ++ ["k"], .file #[0x01, 0x02] false)] } }
  let arguments := ["dreamcast", "t", "i", "k", "--ip-out", "o", "--kernel-out", "./o"]
  let o : Options := ⟨{}, .bootDisc "t" "i" "k" "o" "./o"⟩
  have parsed : Options.parse w.environment arguments = .ok o := by decide +kernel
  have leads : w.files.locate "o" = .ok (workingDirectory ++ ["o"]) := by decide +kernel
  have leads' : w.files.locate "./o" = .ok (workingDirectory ++ ["o"]) := by decide +kernel
  have takes : w.files.TakesFile (workingDirectory ++ ["o"]) := by decide +kernel
  -- the header and the kernel differ in size
  have size : template.size = 32768 := Array.size_replicate
  let header := Disc.BootHeader.finished template []
  have header_size : header.data.size = 32768 :=
    (Disc.BootHeader.holds_finished size (by simp)).size
  have found : o.contents? w.files = some [header.data, #[0x01, 0x02]] := by
    have template_read : w.files.read "t" = .ok template := by
      have template_leads : w.files.locate "t" = .ok (workingDirectory ++ ["t"]) := by
        decide +kernel
      have elsewhere : systemNodes.lookup (workingDirectory ++ ["t"]) = none := by decide +kernel
      have node : w.files.node? (workingDirectory ++ ["t"]) = some (.file template false) := by
        rw [FileSystem.node?, if_neg (by decide), List.lookup_append, elsewhere, Option.none_or,
          List.lookup_cons_self]
      exact FileSystem.read_of_node? template_leads node (by decide +kernel)
    have description_read : w.files.read "i" = .ok #[] := by decide +kernel
    have kernel_read : w.files.read "k" = .ok #[0x01, 0x02] := by decide +kernel
    have description : Disc.Description.parse "" = .ok [] := by decide +kernel
    have built : Disc.BootHeader.build template "" = .ok header := by
      rw [Disc.BootHeader.build_of_size size, description]
      rfl
    have decoded : Utf8.decode? #[] = some "" := by decide +kernel
    have ordered : Disc.SliceOrder.arrange #[0x01, 0x02] = .ok #[0x01, 0x02] := by
      decide +kernel
    show (bytes? w.files "t").bind _ = _
    simp only [bytes?, text?, template_read, description_read, kernel_read, Except.toOption,
      Option.bind, bind, decoded, built, ordered]
    rfl
  rcases publishes_run (o := o) rfl w.startLog (startLog_files w) with
    ⟨nothing, -⟩ | ⟨contents, between, found', -, kept, writes⟩
  · cases nothing.symm.trans found
  obtain rfl := Option.some.inj (found.symm.trans found')
  obtain ⟨after, ran, read_after⟩ := writeAll_same_place (w := between)
    ⟨kept ▸ leads, kept ▸ takes, rfl, by decide +kernel⟩
    ⟨kept ▸ leads', kept ▸ takes, rfl, by decide +kernel⟩ header.data #[0x01, 0x02]
  have outcome : run o w.startLog = (.ok (), after) := writes.trans ran
  have ended : execute arguments w = Exit.ofOutcome tool after (.ok ()) := by
    rw [execute_of_ok parsed, outcome]
  have holds := claimed arguments w o parsed rfl (by decide) ?_ ?_ _ found
  · have read_header := (List.forall₂_cons.1 holds).1
    rw [ended, ofOutcome_files, read_after] at read_header
    have size_kernel := congrArg Array.size (Except.ok.inj read_header)
    rw [header_size] at size_kernel
    cases size_kernel
  · intro path mem
    have place : path = "o" ∨ path = "./o" := by simpa [o, Job.outputs] using mem
    rcases place with rfl | rfl
    · exact ⟨_, leads, takes⟩
    · exact ⟨_, leads', takes⟩
  · rw [ended, ofOutcome_status_eq_zero_iff]

end BareMetal.ImageTool

import BareMetal.Host.FileSystem
import BareMetal.Proofs.Outcome

/-!
# Files that are put somewhere

A file that is put where a file is or nothing stands takes that place and leaves every other node
as it is (`node?_put`).  As such a place is no directory and no link, all paths lead where they have
led before (`locate_put_eq_ok_iff`).
-/

namespace BareMetal.Host.FileSystem

variable {fs : FileSystem} {l : Location} {content : Bytes} {executable : Bool}

theorem lookup_replaced (nodes : List (Location × Node)) (l : Location) (n : Node) (m : Location) :
    (nodes.map fun (k, old) => if k = l then (k, n) else (k, old)).lookup m =
      if m = l then (nodes.lookup l).map fun _ => n else nodes.lookup m := by
  induction nodes with
  | nil => simp
  | cons entry rest ih =>
    obtain ⟨k, old⟩ := entry
    by_cases replaced : k = l
    · subst replaced
      by_cases same : m = k
      · simp [same]
      · simp [List.lookup_cons, same, beq_false_of_ne same, ih]
    · by_cases here : m = k
      · subst here
        simp [replaced]
      · simp [List.lookup_cons, beq_false_of_ne here, beq_false_of_ne (Ne.symm replaced),
          replaced, ih]

theorem isSome_lookup (nodes : List (Location × Node)) (l : Location) :
    (nodes.lookup l).isSome = nodes.any (·.1 == l) := by
  induction nodes with
  | nil => rfl
  | cons entry rest ih =>
    obtain ⟨k, old⟩ := entry
    by_cases here : l = k
    · simp [here]
    · simp [List.lookup_cons, beq_false_of_ne here, beq_false_of_ne (Ne.symm here), ih]

theorem node?_put (fs : FileSystem) (n : Node) {l : Location} (below : l ≠ []) (m : Location) :
    (fs.put l n).node? m = if m = l then some n else fs.node? m := by
  by_cases root : m = []
  · subst root
    rw [node?, if_pos rfl, if_neg below.symm, node?, if_pos rfl]
  rw [node?, if_neg root, node?, if_neg root, put, ← isSome_lookup]
  cases found : fs.nodes.lookup l with
  | some old =>
    rw [Option.isSome_some, if_pos rfl, lookup_replaced, found]
    rfl
  | none =>
    rw [Option.isSome_none, if_neg Bool.false_ne_true, List.lookup_append]
    by_cases same : m = l
    · simp [same, found]
    · simp [same, List.lookup_cons, beq_false_of_ne same]

/-- There is a file at the place, or one can be made there. -/
def TakesFile (fs : FileSystem) (l : Location) : Prop :=
  match fs.node? l with
  | none | some (.file _ _) | some (.program _) => True
  | some .directory | some (.link _) | some (.device _) => False

instance (fs : FileSystem) (l : Location) : Decidable (fs.TakesFile l) := by
  unfold TakesFile
  split <;> infer_instance

theorem TakesFile.cases (h : fs.TakesFile l) : fs.node? l = none ∨
    (∃ content executable, fs.node? l = some (.file content executable)) ∨
      ∃ name, fs.node? l = some (.program name) := by
  unfold TakesFile at h
  cases node : fs.node? l with
  | none => exact .inl rfl
  | some n =>
    cases n with
    | file content executable => exact .inr (.inl ⟨content, executable, rfl⟩)
    | program name => exact .inr (.inr ⟨name, rfl⟩)
    | directory | link target | device d =>
      rw [node] at h
      exact h.elim

theorem TakesFile.ne_nil (h : fs.TakesFile l) : l ≠ [] := by
  rintro rfl
  exact h

/-! ## Following paths -/

section

variable (h : fs.TakesFile l)
include h

theorem TakesFile.not_isDirectory : fs.isDirectory l = false := by
  rcases h.cases with node | ⟨_, _, node⟩ | ⟨_, node⟩ <;> rw [isDirectory, node]

theorem TakesFile.target : fs.target l = l := by
  rcases h.cases with node | ⟨_, _, node⟩ | ⟨_, node⟩ <;> rw [FileSystem.target, node]

theorem isDirectory_put (m : Location) :
    (fs.put l (.file content executable)).isDirectory m = fs.isDirectory m := by
  by_cases same : m = l
  · subst same
    rw [h.not_isDirectory, isDirectory, node?_put fs _ h.ne_nil, if_pos rfl]
  · rw [isDirectory, isDirectory, node?_put fs _ h.ne_nil, if_neg same]

theorem target_put (m : Location) :
    (fs.put l (.file content executable)).target m = fs.target m := by
  by_cases same : m = l
  · subst same
    rw [h.target, FileSystem.target, node?_put fs _ h.ne_nil, if_pos rfl]
  · rw [FileSystem.target, FileSystem.target, node?_put fs _ h.ne_nil, if_neg same]

omit h in
theorem walk_of_not_directory {rest : List String} {base : Location} (going : rest ≠ [])
    (no_directory : fs.isDirectory base = false) : fs.walk base rest = .error .notDirectory := by
  cases rest with
  | nil => exact absurd rfl going
  | cons part rest =>
    rw [walk, no_directory]
    rfl

theorem walk_put_eq_ok_iff {parts : List String} {base r : Location} :
    (fs.put l (.file content executable)).walk base parts = .ok r ↔ fs.walk base parts = .ok r := by
  induction parts generalizing base with
  | nil => rfl
  | cons part rest ih =>
    rw [walk, walk, isDirectory_put h, target_put h]
    split
    · rfl
    split
    · exact ih
    split
    · exact ih
    split
    · rfl
    generalize fs.target (base ++ [part]) = next
    by_cases here : next = l ∧ rest ≠ []
    · -- nothing is below the place, whether it is free or not
      obtain ⟨rfl, going⟩ := here
      have stuck : fs.walk next rest ≠ .ok r := by
        rw [walk_of_not_directory going h.not_isDirectory]
        nofun
      have stuck_after : (fs.put next (.file content executable)).walk next rest ≠ .ok r :=
        fun ok => stuck (ih.1 ok)
      constructor <;> intro ok <;> dsimp only at ok <;> split at ok
      · cases ok
      · exact absurd ok stuck_after
      · cases ok
      · exact absurd ok stuck
    · have same : (rest ≠ [] ∧
          ((fs.put l (.file content executable)).node? next).isNone = true) ↔
          (rest ≠ [] ∧ (fs.node? next).isNone = true) := by
        refine and_congr_right fun going => ?_
        rw [node?_put fs _ h.ne_nil, if_neg fun e => here ⟨e, going⟩]
      simp only [same]
      split
      · rfl
      · exact ih

theorem locate_put_eq_ok_iff {path : String} {r : Location} :
    (fs.put l (.file content executable)).locate path = .ok r ↔ fs.locate path = .ok r := by
  unfold locate
  split
  · rfl
  split
  · rfl
  · exact walk_put_eq_ok_iff h

end

/-! ## Opening files -/

/-- Opening for writing, where a file can be, is about that file. -/
theorem openPath_creating_of_takesFile {path : String} (leads : fs.locate path = .ok l)
    (h : fs.TakesFile l) : ∃ old executable, fs.openPath .creating path =
      if fs.node? l = none ∧ isFixed l then .error .notFound
      else if path.endsWith "/" then .error .isDirectory
      else .ok (.file l old executable) := by
  rw [openPath, leads]
  rcases h.cases with node | ⟨old, executable, node⟩ | ⟨name, node⟩
  · refine ⟨#[], false, ?_⟩
    simp only [bind, Except.bind, node, ne_eq, not_true_eq_false, false_or, true_and]
    rfl
  · refine ⟨old, executable, ?_⟩
    simp only [bind, Except.bind, node]
    cases path.endsWith "/" <;> rfl
  · refine ⟨#[], true, ?_⟩
    simp only [bind, Except.bind, node]
    cases path.endsWith "/" <;> rfl

theorem openPath_of_takesFile {path : String} {handle : Handle} (leads : fs.locate path = .ok l)
    (h : fs.TakesFile l) (opened : fs.openPath .creating path = .ok handle) :
    path.endsWith "/" = false ∧ ∃ old executable, handle = .file l old executable := by
  obtain ⟨old, executable, outcome⟩ := openPath_creating_of_takesFile leads h
  rw [outcome] at opened
  split at opened
  · cases opened
  split at opened
  · cases opened
  next no_slash =>
    exact ⟨Bool.eq_false_iff.2 no_slash, old, executable, (Except.ok.inj opened).symm⟩

/-- A path that does not ask for a directory can be opened for writing where a file can be. -/
theorem openPath_creating {path : String} (leads : fs.locate path = .ok l) (h : fs.TakesFile l)
    (free : isFixed l = false) (no_slash : path.endsWith "/" = false) :
    ∃ old executable, fs.openPath .creating path = .ok (.file l old executable) := by
  obtain ⟨old, executable, outcome⟩ := openPath_creating_of_takesFile leads h
  refine ⟨old, executable, ?_⟩
  rw [outcome, free, no_slash]
  simp only [Bool.false_eq_true, and_false, if_false]

/-- A file that is there can be opened for anything. -/
theorem openPath_of_node? {path : String} (a : Access) (leads : fs.locate path = .ok l)
    (node : fs.node? l = some (.file content executable)) (no_slash : path.endsWith "/" = false) :
    fs.openPath a path = .ok (.file l content executable) := by
  rw [openPath, leads]
  simp only [bind, Except.bind, node, no_slash]
  rfl

theorem read_of_node? {path : String} (leads : fs.locate path = .ok l)
    (node : fs.node? l = some (.file content executable)) (no_slash : path.endsWith "/" = false) :
    fs.read path = .ok content := by
  rw [read, openPath_of_node? .reading leads node no_slash]
  rfl

/-- What is read at a path depends on what stands where it leads. -/
theorem read_congr {fs' : FileSystem} {path : String} (leads : fs.locate path = .ok l)
    (leads' : fs'.locate path = .ok l) (same : fs'.node? l = fs.node? l) :
    fs'.read path = fs.read path := by
  rw [read, read, openPath, openPath, leads, leads', Outcome.ok_bind, Outcome.ok_bind, same]

theorem takesFile_of_node? (node : fs.node? l = some (.file content executable)) :
    fs.TakesFile l := by
  rw [TakesFile, node]
  trivial

theorem node?_put_self (below : l ≠ []) :
    (fs.put l (.file content executable)).node? l = some (.file content executable) := by
  rw [node?_put fs _ below, if_pos rfl]

theorem takesFile_put (below : l ≠ []) : (fs.put l (.file content executable)).TakesFile l :=
  takesFile_of_node? (node?_put_self below)

end BareMetal.Host.FileSystem

import BareMetal.Proofs.Host.FileSystem
import BareMetal.Proofs.ImageTool.Products

/-!
# Writing what has been made

Files are written one after the other.  Writes that fail tell of a file that cannot be written
(`writeAll_error`).  Writes that succeed leave each content in its file, and nothing else is
changed, if the paths lead to different places (`writeAll_ok`).
-/

namespace BareMetal.ImageTool

open Host Run

/-! ## One file -/

/-- The first cause of a failure to write a file. -/
def writeFailure (path : String) : String := "Failed to write " ++ path

theorem writeFile_apply (path : String) (content : Bytes) (w : World) :
    Run.writeFile path content w =
      match w.files.openPath .creating path >>= w.put content with
      | .ok after => (.ok (), after)
      | .error e => (.error (.chain [writeFailure path, e.message]), w) := by
  have applied : Run.writeFile path content w = context (writeFailure path)
      (ofSystem (w.files.openPath .creating path >>= w.put content) >>= fun after =>
        set after) w := rfl
  rw [applied, context_apply]
  cases w.files.openPath .creating path >>= w.put content with
  | ok after => rfl
  | error e => rfl

theorem output_writeFile_error {path : String} {content : Bytes} {w w' : World} {e : Failure}
    (failed : Output.writeFile path content w = (.error e, w')) :
    ∃ causes, e = .chain (writeFailure path :: causes) := by
  rcases first : Run.writeFile path content w with ⟨e' | u, between⟩
  · have same : Output.writeFile path content w = (.error e', between) :=
      Outcome.bind_of_error first
    obtain rfl : e' = e := by
      rw [same] at failed
      cases failed
      rfl
    rw [writeFile_apply] at first
    split at first
    · cases first
    · cases first
      exact ⟨_, rfl⟩
  · have same : Output.writeFile path content w = printLine _ between := Outcome.bind_of_ok first
    rw [same] at failed
    cases failed

theorem output_writeFile_ok {path : String} {content : Bytes} {w w' : World} {l : Location}
    (leads : w.files.locate path = .ok l) (takes : w.files.TakesFile l)
    (written : Output.writeFile path content w = (.ok (), w')) :
    path.endsWith "/" = false ∧
      ∃ executable, w'.files = w.files.put l (.file content executable) := by
  obtain ⟨u, between, first, printed⟩ := Outcome.bind_apply_eq_ok_iff.1 written
  have kept : w'.files = between.files := ((finds_printLine _ between rfl).1 ▸ by rw [printed])
  rw [kept]
  rw [writeFile_apply] at first
  split at first
  case h_2 => cases first
  case h_1 after opened_and_put =>
    cases first
    obtain ⟨handle, opened, put⟩ := Outcome.bind_eq_ok_iff.1 opened_and_put
    obtain ⟨no_slash, old, executable, rfl⟩ :=
      FileSystem.openPath_of_takesFile leads takes opened
    cases put
    exact ⟨no_slash, executable, rfl⟩

/-- A new or an old file of this path can be written. -/
structure LeadsToPlace (fs : FileSystem) (path : String) (l : Location) : Prop where
  leads : fs.locate path = .ok l
  takes : fs.TakesFile l
  free : FileSystem.isFixed l = false
  no_slash : path.endsWith "/" = false

theorem output_writeFile_of_place {path : String} {w : World} {l : Location}
    (place : LeadsToPlace w.files path l) (content : Bytes) :
    ∃ executable after, Output.writeFile path content w = (.ok (), after) ∧
      after.files = w.files.put l (.file content executable) := by
  obtain ⟨old, executable, opened⟩ :=
    FileSystem.openPath_creating place.leads place.takes place.free place.no_slash
  have first : Run.writeFile path content w =
      (.ok (), { w with files := w.files.put l (.file content executable) }) := by
    rw [writeFile_apply, opened]
    rfl
  exact ⟨executable, _, Outcome.bind_of_ok first, rfl⟩

/-! ## Several files -/

theorem writeAll_error {products : Products} {w w' : World} {e : Failure}
    (failed : writeAll products w = (.error e, w')) :
    ∃ path ∈ products.map (·.1), ∃ causes, e = .chain (writeFailure path :: causes) := by
  induction products generalizing w with
  | nil => cases failed
  | cons product rest ih =>
    obtain ⟨path, content⟩ := product
    rcases first : Output.writeFile path content w with ⟨e' | u, between⟩
    · have same : writeAll ((path, content) :: rest) w = (.error e', between) :=
        Outcome.bind_of_error first
      rw [same] at failed
      cases failed
      exact ⟨path, by simp, output_writeFile_error first⟩
    · have same : writeAll ((path, content) :: rest) w = writeAll rest between :=
        Outcome.bind_of_ok first
      obtain ⟨path', mem, causes, rfl⟩ := ih (same ▸ failed)
      exact ⟨path', by simp [mem], causes, rfl⟩

/-- Each of the paths leads to a file, or to a place for one, and no two lead to the same. -/
def LeadApart (fs : FileSystem) (paths : List String) : Prop :=
  (∀ path ∈ paths, ∃ l, fs.locate path = .ok l ∧ fs.TakesFile l) ∧
    paths.Pairwise fun path path' => fs.locate path ≠ fs.locate path'

theorem LeadApart.put {fs : FileSystem} {path : String} {rest : List String} {l : Location}
    {content : Bytes} {executable : Bool} (apart : LeadApart fs (path :: rest))
    (leads : fs.locate path = .ok l) (takes : fs.TakesFile l) :
    LeadApart (fs.put l (.file content executable)) rest := by
  obtain ⟨places, others⟩ := apart
  obtain ⟨behind, pairs⟩ := List.pairwise_cons.1 others
  constructor
  · intro p mem
    obtain ⟨m, leads', takes'⟩ := places p (by simp [mem])
    have elsewhere : m ≠ l := by
      rintro rfl
      exact behind p mem (leads.trans leads'.symm)
    refine ⟨m, (FileSystem.locate_put_eq_ok_iff takes).2 leads', ?_⟩
    rw [FileSystem.TakesFile, FileSystem.node?_put fs _ takes.ne_nil, if_neg elsewhere]
    exact takes'
  · -- the other paths lead where they have led before, so none of them meet afterwards
    refine pairs.imp_of_mem fun {p q} p_mem q_mem differ same => differ ?_
    obtain ⟨m, leads', -⟩ := places p (by simp [p_mem])
    have p_after : (fs.put l (.file content executable)).locate p = .ok m :=
      (FileSystem.locate_put_eq_ok_iff takes).2 leads'
    have q_before := (FileSystem.locate_put_eq_ok_iff takes).1 (same ▸ p_after)
    exact leads'.trans q_before.symm

/-- What has become of the files when some products have been written. -/
structure Published (before after : FileSystem) (products : Products) : Prop where
  locate_iff : ∀ path l, after.locate path = .ok l ↔ before.locate path = .ok l
  read : ∀ product ∈ products, after.read product.1 = .ok product.2
  kept : ∀ l, (∀ path ∈ products.map (·.1), before.locate path ≠ .ok l) →
    after.node? l = before.node? l

/-- A file that is put somewhere is published by every path that leads there. -/
theorem published_put {fs : FileSystem} {path : String} {l : Location} (leads : fs.locate path = .ok l)
    (takes : fs.TakesFile l) (no_slash : path.endsWith "/" = false) (content : Bytes)
    (executable : Bool) :
    Published fs (fs.put l (.file content executable)) [(path, content)] := by
  have leads_after : (fs.put l (.file content executable)).locate path = .ok l :=
    (FileSystem.locate_put_eq_ok_iff takes).2 leads
  refine ⟨fun _ _ => FileSystem.locate_put_eq_ok_iff takes, ?_, fun m elsewhere => ?_⟩
  · rintro product mem
    obtain rfl := List.mem_singleton.1 mem
    exact FileSystem.read_of_node? leads_after (FileSystem.node?_put_self takes.ne_nil) no_slash
  · have other : m ≠ l := by
      rintro rfl
      exact elsewhere path (by simp) leads
    rw [FileSystem.node?_put _ _ takes.ne_nil, if_neg other]

/-- Nothing that is published behind a file leads to the place of that file. -/
theorem Published.cons {before between after : FileSystem} {path : String} {content : Bytes}
    {l : Location} {rest : Products} (first : Published before between [(path, content)])
    (others : Published between after rest) (leads : before.locate path = .ok l)
    (apart : ∀ p ∈ rest.map (·.1), before.locate path ≠ before.locate p) :
    Published before after ((path, content) :: rest) := by
  have locate_iff (p : String) (m : Location) :
      after.locate p = .ok m ↔ before.locate p = .ok m :=
    (others.locate_iff p m).trans (first.locate_iff p m)
  refine ⟨locate_iff, ?_, ?_⟩
  · intro product mem
    rcases List.mem_cons.1 mem with rfl | mem
    · have untouched : after.node? l = between.node? l := by
        refine others.kept l fun p mem leads' => apart p mem ?_
        exact leads.trans ((first.locate_iff p l).1 leads').symm
      rw [FileSystem.read_congr ((first.locate_iff path l).2 leads) ((locate_iff path l).2 leads)
        untouched]
      exact first.read (path, content) (by simp)
    · exact others.read product mem
  · intro m elsewhere
    have kept_first : between.node? m = before.node? m := by
      refine first.kept m fun p mem => elsewhere p ?_
      obtain rfl := List.mem_singleton.1 mem
      simp
    rw [← kept_first]
    refine others.kept m fun p mem leads' => ?_
    exact elsewhere p (by simp [mem]) ((first.locate_iff p m).1 leads')

theorem writeAll_ok {products : Products} {w w' : World}
    (apart : LeadApart w.files (products.map (·.1)))
    (written : writeAll products w = (.ok (), w')) : Published w.files w'.files products := by
  induction products generalizing w with
  | nil =>
    cases written
    exact ⟨fun _ _ => Iff.rfl, by simp, fun _ _ => rfl⟩
  | cons product rest ih =>
    obtain ⟨path, content⟩ := product
    obtain ⟨u, between, first, others⟩ := Outcome.bind_apply_eq_ok_iff.1 written
    obtain ⟨l, leads, takes⟩ := apart.1 path (by simp)
    obtain ⟨no_slash, executable, put⟩ := output_writeFile_ok leads takes first
    have published_first : Published w.files between.files [(path, content)] :=
      put ▸ published_put leads takes no_slash content executable
    have published_others : Published between.files w'.files rest :=
      ih (put ▸ apart.put leads takes) others
    exact published_first.cons published_others leads (List.pairwise_cons.1 apart.2).1

/-- Of two contents for the same place the second stays. -/
theorem writeAll_same_place {path path' : String} {w : World} {l : Location}
    (place : LeadsToPlace w.files path l) (place' : LeadsToPlace w.files path' l)
    (content content' : Bytes) :
    ∃ after, writeAll [(path, content), (path', content')] w = (.ok (), after) ∧
      after.files.read path = .ok content' := by
  obtain ⟨executable, between, first, put⟩ := output_writeFile_of_place place content
  have takes_between : between.files.TakesFile l :=
    put ▸ FileSystem.takesFile_put place.takes.ne_nil
  have leads_between {p : String} (leads : w.files.locate p = .ok l) :
      between.files.locate p = .ok l := by
    rwa [put, FileSystem.locate_put_eq_ok_iff place.takes]
  obtain ⟨executable', after, second, put'⟩ := output_writeFile_of_place
    ⟨leads_between place'.leads, takes_between, place'.free, place'.no_slash⟩ content'
  have both : writeAll [(path, content), (path', content')] w = writeAll [] after :=
    (Outcome.bind_of_ok first).trans (Outcome.bind_of_ok second)
  have published := published_put (leads_between place.leads) takes_between place.no_slash content'
    executable'
  refine ⟨after, both, ?_⟩
  rw [put']
  exact published.read (path, content') (by simp)

end BareMetal.ImageTool

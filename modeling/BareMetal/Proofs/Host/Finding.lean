import BareMetal.Host.Run
import BareMetal.Proofs.Outcome

/-!
# What steps find in files

A step that only reads, computes and prints finds something in the files that there are, or fails
(`Finds`).  Sequences of such steps find what is computed from what they have found.
-/

namespace BareMetal.Host.Run

variable {α β : Type} {fs : FileSystem}

/-! ## Causes in front of others -/

/-- The failure with a cause in front of its others. -/
def behind (message : String) : Failure → Failure
  | .chain causes => .chain (message :: causes)
  | .fault f => .fault f

theorem context_apply (message : String) (x : Run α) (w : World) :
    context message x w = ((x w).1.mapError (behind message), (x w).2) := by
  simp only [context, tryCatch, tryCatchThe, MonadExceptOf.tryCatch, ExceptT.tryCatch, ExceptT.mk,
    bind, StateT.bind]
  rcases x w with ⟨e | a, w'⟩
  · cases e <;> rfl
  · rfl

/-! ## Steps and sequences of steps -/

/-- In a world with these files the step leaves them as they are and comes to what `found?` holds,
or fails if it holds nothing. -/
def Finds (fs : FileSystem) (x : Run α) (found? : Option α) : Prop :=
  ∀ w, w.files = fs → (x w).2.files = fs ∧ (x w).1.toOption = found?

theorem finds_pure (a : α) : Finds fs (pure a) (some a) := fun _ same => ⟨same, rfl⟩

theorem finds_throw (e : Failure) : Finds fs (throw e : Run α) none := fun _ same => ⟨same, rfl⟩

theorem Finds.apply {x : Run α} {a : α} (hx : Finds fs x (some a)) {w : World}
    (same : w.files = fs) :
    ∃ after, x w = (.ok a, after) ∧ after.files = fs := by
  obtain ⟨kept, result⟩ := hx w same
  rcases run : x w with ⟨e | b, after⟩
  · rw [run] at result
    cases result
  · rw [run] at kept result
    cases result
    exact ⟨after, rfl, kept⟩

theorem Finds.bind {x : Run α} {f : α → Run β} {found? : Option α} {next? : α → Option β}
    (hx : Finds fs x found?) (hf : ∀ a, found? = some a → Finds fs (f a) (next? a)) :
    Finds fs (x >>= f) (found?.bind next?) := by
  intro w same
  obtain ⟨kept, result⟩ := hx w same
  rcases run : x w with ⟨e | a, between⟩
  · rw [run] at kept result
    obtain rfl : none = found? := result
    rw [Outcome.bind_of_error run]
    exact ⟨kept, rfl⟩
  · rw [run] at kept result
    obtain rfl : some a = found? := result
    rw [Outcome.bind_of_ok run]
    exact hf a rfl between kept

theorem Finds.map {x : Run α} {found? : Option α} (hx : Finds fs x found?) (f : α → β) :
    Finds fs (f <$> x) (found?.map f) := by
  rw [← bind_pure_comp, Option.map_eq_bind]
  exact hx.bind fun a _ => finds_pure (f a)

theorem Finds.context {x : Run α} {found? : Option α} (hx : Finds fs x found?) (message : String) :
    Finds fs (Run.context message x) found? := by
  intro w same
  obtain ⟨kept, result⟩ := hx w same
  rw [context_apply]
  refine ⟨kept, ?_⟩
  rcases run : x w with ⟨e | a, after⟩
  · rw [run] at result
    exact result
  · rw [run] at result
    exact result

/-! ## Outcomes -/

theorem finds_ofExcept {ε : Type} (causes : ε → List String) (x : Except ε α) :
    Finds fs (ofExcept causes x) x.toOption := by
  cases x with
  | ok a => exact finds_pure a
  | error e => exact finds_throw _

theorem finds_ofFault (x : Except Fault α) : Finds fs (ofFault x) x.toOption := by
  cases x with
  | ok a => exact finds_pure a
  | error f => exact finds_throw _

/-! ## Output and the log -/

theorem finds_printLine (s : String) : Finds fs (printLine s) (some ()) :=
  fun _ same => ⟨same, rfl⟩

theorem finds_log (level : Log.Level) (target message : String) :
    Finds fs (log level target message) (some ()) := by
  intro w same
  have kept : (w.log { level, target, message }).files = w.files := by
    unfold World.log
    split <;> rfl
  exact ⟨kept.trans same, rfl⟩

theorem finds_forM {f : α → Run Unit} (hf : ∀ a, Finds fs (f a) (some ())) (as : List α) :
    Finds fs (as.forM f) (some ()) := by
  induction as with
  | nil => exact finds_pure ()
  | cons a rest ih => exact (hf a).bind fun _ _ => ih

/-! ## Reading -/

theorem readFile_apply (path : String) (w : World) :
    readFile path w = ((context (readFailure path) (ofSystem (w.files.read path))) w) := rfl

/-- What is behind a read text when it has been read. -/
theorem readText_apply (path : String) (w : World) : readText path w =
    context (readFailure path) (ofSystem (w.files.read path) >>= fun content =>
      match Utf8.decode? content with
      | some s => pure s
      | none => fail "stream did not contain valid UTF-8") w := rfl

theorem finds_readFile (path : String) : Finds fs (readFile path) (fs.read path).toOption := by
  intro w same
  subst same
  rw [readFile_apply]
  exact ((finds_ofExcept _ _).context _) w rfl

theorem finds_readText (path : String) :
    Finds fs (readText path) ((fs.read path).toOption.bind Utf8.decode?) := by
  intro w same
  subst same
  rw [readText_apply]
  refine Finds.context (Finds.bind (finds_ofExcept _ _) fun content _ => ?_) _ w rfl
  cases Utf8.decode? content with
  | some s => exact finds_pure s
  | none => exact finds_throw _

end BareMetal.Host.Run

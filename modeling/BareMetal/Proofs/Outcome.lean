/-!
# Sequences of steps that may fail

A sequence of steps gives a result exactly when every step of it does.  Where the steps share a
state, each of them works on what the one before has left, also when it fails.
-/

namespace BareMetal.Outcome

variable {ε ε' α β : Type}

theorem ok_bind (a : α) (f : α → Except ε β) : (Except.ok a >>= f) = f a := rfl

theorem bind_eq_ok_iff {x : Except ε α} {f : α → Except ε β} {b : β} :
    (x >>= f) = .ok b ↔ ∃ a, x = .ok a ∧ f a = .ok b := by
  cases x <;> simp [bind, Except.bind]

theorem map_eq_ok_iff {x : Except ε α} {f : α → β} {b : β} :
    x.map f = .ok b ↔ ∃ a, x = .ok a ∧ f a = b := by
  cases x <;> simp [Except.map]

theorem mapError_eq_ok_iff {x : Except ε α} {f : ε → ε'} {a : α} :
    x.mapError f = .ok a ↔ x = .ok a := by
  cases x with
  | ok a' => exact ⟨fun h => congrArg _ (Except.ok.inj h), fun h => congrArg _ (Except.ok.inj h)⟩
  | error e => exact ⟨nofun, nofun⟩

theorem toOption_eq_some_iff {x : Except ε α} {a : α} : x.toOption = some a ↔ x = .ok a := by
  cases x <;> simp [Except.toOption]

/-- Two judgements, one for results and one for failures, that are sound and of which one always has
something to say, are exact. -/
theorem eq_iff_of_total {x : Except ε α} {P : α → Prop} {Q : ε → Prop} (ok : ∀ a, P a → x = .ok a)
    (error : ∀ e, Q e → x = .error e) (total : (∃ a, P a) ∨ ∃ e, Q e) :
    (∀ a, x = .ok a ↔ P a) ∧ ∀ e, x = .error e ↔ Q e := by
  rcases total with ⟨a, holds⟩ | ⟨e, holds⟩
  · obtain rfl := ok a holds
    refine ⟨fun a' => ⟨?_, ok a'⟩, fun e => ⟨nofun, error e⟩⟩
    rintro ⟨⟩
    exact holds
  · obtain rfl := error e holds
    refine ⟨fun a => ⟨nofun, ok a⟩, fun e' => ⟨?_, error e'⟩⟩
    rintro ⟨⟩
    exact holds

/-- A condition for a result and the reasons of failures, of which one always holds, are exact if
there is a result wherever the condition holds and each of the reasons makes it fail. -/
theorem decided_of_total {x : Except ε α} {Q : ε → Prop} {condition : Prop}
    (ok : condition → ∃ a, x = .ok a) (error : ∀ e, Q e → x = .error e)
    (total : condition ∨ ∃ e, Q e) :
    ((∃ a, x = .ok a) ↔ condition) ∧ ∀ e, x = .error e ↔ Q e := by
  refine ⟨⟨?_, ok⟩, (eq_iff_of_total (fun _ => id) error (total.imp_left ok)).2⟩
  rintro ⟨a, found⟩
  rcases total with holds | ⟨e, reason⟩
  · exact holds
  · cases found.symm.trans (error e reason)

/-- Each result of a sequence of steps is the result of one of them. -/
theorem exists_of_mem_mapM {f : α → Except ε β} {xs : List α} {ys : List β}
    (h : xs.mapM f = .ok ys) {y : β} (mem : y ∈ ys) : ∃ x ∈ xs, f x = .ok y := by
  induction xs generalizing ys with
  | nil =>
    cases h
    exact absurd mem List.not_mem_nil
  | cons x rest ih =>
    rw [List.mapM_cons] at h
    obtain ⟨y', first, h⟩ := bind_eq_ok_iff.1 h
    obtain ⟨ys', others, h⟩ := bind_eq_ok_iff.1 h
    cases h
    rcases List.mem_cons.1 mem with rfl | mem
    · exact ⟨x, by simp, first⟩
    · obtain ⟨x', x'_mem, read⟩ := ih others mem
      exact ⟨x', by simp [x'_mem], read⟩

/-! ## Steps that share a state -/

section

variable {σ : Type} {x : ExceptT ε (StateM σ) α} {f : α → ExceptT ε (StateM σ) β} {g : α → β}
  {s s' : σ}

theorem bind_of_ok {a : α} (h : x s = (.ok a, s')) : (x >>= f) s = f a s' := by
  simp only [bind, ExceptT.bind, ExceptT.mk, StateT.bind]
  rw [h]
  rfl

theorem map_of_ok {a : α} (h : x s = (.ok a, s')) : (g <$> x) s = (.ok (g a), s') := by
  rw [map_eq_pure_bind, bind_of_ok h]
  rfl

theorem bind_of_error {e : ε} (h : x s = (.error e, s')) : (x >>= f) s = (.error e, s') := by
  simp only [bind, ExceptT.bind, ExceptT.mk, StateT.bind]
  rw [h]
  rfl

theorem bind_apply_eq_ok_iff {b : β} : (x >>= f) s = (.ok b, s') ↔
    ∃ a between, x s = (.ok a, between) ∧ f a between = (.ok b, s') := by
  rcases first : x s with ⟨e | a, between⟩
  · rw [bind_of_error first]
    constructor
    · nofun
    · rintro ⟨a, between', same, -⟩
      cases same
  · rw [bind_of_ok first]
    constructor
    · intro second
      exact ⟨a, between, rfl, second⟩
    · rintro ⟨a', between', same, second⟩
      cases same
      exact second

theorem map_of_error {e : ε} (h : x s = (.error e, s')) : (g <$> x) s = (.error e, s') := by
  rw [map_eq_pure_bind, bind_of_error h]

end

end BareMetal.Outcome

import DataParallel.Step

/-!
# Steps that see only a part of the state

A step is coupled by a relation if runs from related states have the same
result and lead to related states.  For a relation that says that two states
agree in a part, the step then reads nothing but this part.
-/

namespace DataParallel

namespace Step

variable {σ α β : Type}

/-- From related states the step has the same result and leads to related states. -/
def Coupled (R : σ → σ → Prop) (step : Step σ α) : Prop :=
  ∀ s t, R s t → (step.runFrom s).1 = (step.runFrom t).1 ∧
    R (step.runFrom s).2 (step.runFrom t).2

variable {R : σ → σ → Prop}

theorem coupled_pure (a : α) : Coupled R (pure a : Step σ α) :=
  fun _ _ h => ⟨rfl, h⟩

theorem coupled_ofExcept (result : Except Fault α) : Coupled R (ofExcept result : Step σ α) :=
  fun _ _ h => ⟨rfl, h⟩

theorem coupled_modify {f : σ → σ} (hf : ∀ s t, R s t → R (f s) (f t)) :
    Coupled R (modify f : Step σ PUnit) :=
  fun s t h => ⟨rfl, hf s t h⟩

theorem coupled_bind {step : Step σ α} {next : α → Step σ β}
    (hstep : Coupled R step) (hnext : ∀ a, Coupled R (next a)) :
    Coupled R (step >>= next) := by
  intro s t h
  obtain ⟨hresult, hstate⟩ := hstep s t h
  rw [runFrom_bind, runFrom_bind]
  rcases hs : step.runFrom s with ⟨fault | a, s'⟩
  · rcases ht : step.runFrom t with ⟨fault' | b, t'⟩
    · rw [hs, ht] at hresult hstate
      exact ⟨congrArg Except.error (Except.error.inj hresult), hstate⟩
    · rw [hs, ht] at hresult
      cases hresult
  · rcases ht : step.runFrom t with ⟨fault' | b, t'⟩
    · rw [hs, ht] at hresult
      cases hresult
    · rw [hs, ht] at hresult hstate
      rw [Except.ok.inj hresult]
      exact hnext b s' t' hstate

/-- What is done with the state that was read must be the same for related states. -/
theorem coupled_get_bind {next : σ → Step σ β} (hsame : ∀ s t, R s t → next s = next t)
    (hnext : ∀ s, Coupled R (next s)) : Coupled R (get >>= next) := by
  intro s t h
  rw [runFrom_bind_of_ok (runFrom_get s), runFrom_bind_of_ok (runFrom_get t), hsame s t h]
  exact hnext t s t h

end Step

end DataParallel

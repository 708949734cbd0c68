import DataParallel.Step

/-!
# Steps that follow each other

One step simulates another if, from related states, it succeeds whenever the other does, and leads
to related states and results.  The states and the results may be of different kinds, and what
relates them is carried from one part of the steps to the next.
-/

namespace DataParallel

namespace Step

variable {σ τ α β α' β' : Type}

/-- Whenever the first step succeeds, the second does from every related state, and ends in related
states with related results. -/
def Simulates (R : σ → τ → Prop) (step : Step σ α) (step' : Step τ α') (Q : α → α' → Prop) :
    Prop :=
  ∀ s s' a t, R s s' → step.runFrom s = (.ok a, t) →
    ∃ a' t', step'.runFrom s' = (.ok a', t') ∧ R t t' ∧ Q a a'

variable {R : σ → τ → Prop} {P : α → α' → Prop} {Q : β → β' → Prop}

theorem simulates_pure {a : α} {a' : α'} (h : P a a') :
    Simulates R (pure a : Step σ α) (pure a' : Step τ α') P := by
  intro s s' b t hs hrun
  obtain ⟨hb, ht⟩ := Prod.mk.inj hrun
  rw [← ht, ← Except.ok.inj hb]
  exact ⟨a', s', rfl, hs, h⟩

theorem simulates_ofExcept {result : Except Fault α} {result' : Except Fault α'}
    (h : ∀ a, result = .ok a → ∃ a', result' = .ok a' ∧ P a a') :
    Simulates R (ofExcept result : Step σ α) (ofExcept result' : Step τ α') P := by
  intro s s' a t hs hrun
  obtain ⟨ha, ht⟩ := Prod.mk.inj hrun
  obtain ⟨a', rfl, hrelated⟩ := h a ha
  rw [← ht]
  exact ⟨a', s', rfl, hs, hrelated⟩

theorem simulates_modify {f : σ → σ} {f' : τ → τ} (h : ∀ s s', R s s' → R (f s) (f' s')) :
    Simulates R (modify f : Step σ PUnit) (modify f' : Step τ PUnit) fun _ _ => True := by
  intro s s' a t hs hrun
  rw [← (Prod.mk.inj hrun).2]
  exact ⟨⟨⟩, f' s', rfl, h s s' hs, trivial⟩

theorem simulates_bind {step : Step σ α} {step' : Step τ α'} {next : α → Step σ β}
    {next' : α' → Step τ β'} (hstep : Simulates R step step' P)
    (hnext : ∀ a a', P a a' → Simulates R (next a) (next' a') Q) :
    Simulates R (step >>= next) (step' >>= next') Q := by
  intro s s' b t hs hrun
  obtain ⟨a, u, hfirst, hsecond⟩ := runFrom_bind_eq_ok hrun
  obtain ⟨a', u', hfirst', hu, ha⟩ := hstep s s' a u hs hfirst
  rw [runFrom_bind_of_ok hfirst']
  exact hnext a a' ha u u' b t hu hsecond

/-- What was read are the related states. -/
theorem simulates_get_bind {next : σ → Step σ β} {next' : τ → Step τ β'}
    (hnext : ∀ s s', R s s' → Simulates R (next s) (next' s') Q) :
    Simulates R (get >>= next) (get >>= next') Q :=
  fun s s' b t hs hrun => hnext s s' hs s s' b t hs hrun

end Step

end DataParallel

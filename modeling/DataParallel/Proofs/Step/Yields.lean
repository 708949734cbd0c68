import DataParallel.Step

/-!
# Steps that keep a property

A step keeps a property of the state if every run that begins with it and
succeeds ends with it.  What the result is then known to be is carried along,
so that the parts of a step can be taken one after the other.
-/

namespace DataParallel

namespace Step

variable {σ α β : Type}

/-- A run that begins with `I` and succeeds ends with `I`, and its result has `Q`. -/
def Yields (I : σ → Prop) (step : Step σ α) (Q : α → Prop) : Prop :=
  ∀ s a s', I s → step.runFrom s = (.ok a, s') → I s' ∧ Q a

variable {I : σ → Prop}

theorem yields_pure {Q : α → Prop} {a : α} (h : Q a) : Yields I (pure a : Step σ α) Q := by
  intro s b s' hs hrun
  obtain ⟨hb, hs'⟩ := Prod.mk.inj hrun
  rw [← hs', ← Except.ok.inj hb]
  exact ⟨hs, h⟩

theorem yields_ofExcept {Q : α → Prop} {result : Except Fault α}
    (h : ∀ a, result = .ok a → Q a) : Yields I (ofExcept result : Step σ α) Q := by
  intro s a s' hs hrun
  obtain ⟨ha, hs'⟩ := Prod.mk.inj hrun
  rw [← hs']
  exact ⟨hs, h a ha⟩

theorem yields_get : Yields I (get : Step σ σ) I := by
  intro s a s' hs hrun
  obtain ⟨ha, hs'⟩ := Prod.mk.inj hrun
  rw [← hs', ← Except.ok.inj ha]
  exact ⟨hs, hs⟩

theorem yields_modify {f : σ → σ} (h : ∀ s, I s → I (f s)) :
    Yields I (modify f : Step σ PUnit) fun _ => True := by
  intro s a s' hs hrun
  rw [← (Prod.mk.inj hrun).2]
  exact ⟨h s hs, trivial⟩

theorem yields_bind {P : α → Prop} {Q : β → Prop} {step : Step σ α} {next : α → Step σ β}
    (hstep : Yields I step P) (hnext : ∀ a, P a → Yields I (next a) Q) :
    Yields I (step >>= next) Q := by
  intro s b t hs hrun
  obtain ⟨a, s', hfirst, hsecond⟩ := runFrom_bind_eq_ok hrun
  obtain ⟨hs', ha⟩ := hstep s a s' hs hfirst
  exact hnext a ha s' b t hs' hsecond

end Step

end DataParallel

import DataParallel.Step

/-!
# Steps that succeed

A step succeeds under a property of the state if every run that begins with it gives a result and
ends with the property; it fails if every such run ends in one fault, but with the property too.  A
step that begins with parts that succeed goes the way of the part that follows.
-/

namespace DataParallel

namespace Step

variable {σ α β : Type}

/-- Every run that begins with `I` gives a result with `Q` and ends with `I`. -/
def Succeeds (I : σ → Prop) (step : Step σ α) (Q : α → Prop) : Prop :=
  ∀ s, I s → ∃ a t, step.runFrom s = (.ok a, t) ∧ I t ∧ Q a

/-- Every run that begins with `I` ends in the fault, and with `I`. -/
def Fails (I : σ → Prop) (step : Step σ α) (fault : Fault) : Prop :=
  ∀ s, I s → ∃ t, step.runFrom s = (.error fault, t) ∧ I t

variable {I : σ → Prop} {P : α → Prop} {Q : β → Prop} {fault : Fault}

theorem succeeds_pure {a : α} (h : P a) : Succeeds I (pure a : Step σ α) P :=
  fun s hs => ⟨a, s, rfl, hs, h⟩

theorem succeeds_ofExcept {result : Except Fault α} (h : ∃ a, result = .ok a ∧ P a) :
    Succeeds I (ofExcept result : Step σ α) P := by
  obtain ⟨a, rfl, ha⟩ := h
  exact fun s hs => ⟨a, s, rfl, hs, ha⟩

theorem fails_ofExcept {result : Except Fault α} (h : result = .error fault) :
    Fails I (ofExcept result : Step σ α) fault := by
  subst h
  exact fun s hs => ⟨s, rfl, hs⟩

theorem succeeds_modify {f : σ → σ} (h : ∀ s, I s → I (f s)) :
    Succeeds I (modify f : Step σ PUnit) fun _ => True :=
  fun s hs => ⟨⟨⟩, f s, rfl, h s hs, trivial⟩

section Bind

variable {step : Step σ α} {next : α → Step σ β}

theorem succeeds_bind (hstep : Succeeds I step P) (hnext : ∀ a, P a → Succeeds I (next a) Q) :
    Succeeds I (step >>= next) Q := by
  intro s hs
  obtain ⟨a, t, hrun, ht, ha⟩ := hstep s hs
  rw [runFrom_bind_of_ok hrun]
  exact hnext a ha t ht

theorem fails_bind (hstep : Succeeds I step P) (hnext : ∀ a, P a → Fails I (next a) fault) :
    Fails I (step >>= next) fault := by
  intro s hs
  obtain ⟨a, t, hrun, ht, ha⟩ := hstep s hs
  rw [runFrom_bind_of_ok hrun]
  exact hnext a ha t ht

/-- What stands after a fault is not run. -/
theorem fails_bind_left (hstep : Fails I step fault) : Fails I (step >>= next) fault := by
  intro s hs
  obtain ⟨t, hrun, ht⟩ := hstep s hs
  exact ⟨t, runFrom_bind_of_error hrun, ht⟩

end Bind

section Get

variable {next : σ → Step σ β}

/-- What was read has the property. -/
theorem succeeds_get_bind (hnext : ∀ s, I s → Succeeds I (next s) Q) :
    Succeeds I (get >>= next) Q :=
  fun s hs => hnext s hs s hs

theorem fails_get_bind (hnext : ∀ s, I s → Fails I (next s) fault) :
    Fails I (get >>= next) fault :=
  fun s hs => hnext s hs s hs

end Get

end Step

end DataParallel

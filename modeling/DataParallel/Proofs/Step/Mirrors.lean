import DataParallel.Step

/-!
# Steps that mirror each other

A step mirrors another under a map of their states if, from a state that the
map leads to, it has the same result and leads to where the map leads.  If the
map forgets something, the one step does what the other does and keeps a record
besides.
-/

namespace DataParallel

namespace Step

variable {σ τ ρ α β : Type} {f : σ → τ}

/-- The second step does on images under `f` what the first one does. -/
def Mirrors (f : σ → τ) (step : Step σ α) (step' : Step τ α) : Prop :=
  ∀ s, step'.runFrom (f s) = ((step.runFrom s).1, f (step.runFrom s).2)

theorem mirrors_pure (a : α) : Mirrors f (pure a) (pure a) :=
  fun _ => rfl

theorem mirrors_throw (fault : Fault) :
    Mirrors f (throw fault : Step σ α) (throw fault : Step τ α) :=
  fun _ => rfl

/-- Nothing that stands after a fault matters. -/
theorem mirrors_throw_bind (fault : Fault) {next : α → Step σ β} {next' : α → Step τ β} :
    Mirrors f (throw fault >>= next) (throw fault >>= next') :=
  fun _ => rfl

theorem mirrors_ofExcept (result : Except Fault α) :
    Mirrors f (ofExcept result) (ofExcept result) :=
  fun _ => rfl

theorem mirrors_modify {g : σ → σ} {g' : τ → τ} (h : ∀ s, g' (f s) = f (g s)) :
    Mirrors f (modify g : Step σ PUnit) (modify g' : Step τ PUnit) := by
  intro s
  rw [runFrom_modify, runFrom_modify, h]

theorem mirrors_bind {step : Step σ α} {step' : Step τ α} {next : α → Step σ β}
    {next' : α → Step τ β} (hstep : Mirrors f step step')
    (hnext : ∀ a, Mirrors f (next a) (next' a)) :
    Mirrors f (step >>= next) (step' >>= next') := by
  intro s
  have hfirst := hstep s
  rcases hrun : step.runFrom s with ⟨fault | a, t⟩
  · rw [hrun] at hfirst
    rw [runFrom_bind_of_error hrun, runFrom_bind_of_error hfirst]
  · rw [hrun] at hfirst
    rw [runFrom_bind_of_ok hrun, runFrom_bind_of_ok hfirst]
    exact hnext a t

/-- The state that was read is forgotten like the one that is left. -/
theorem mirrors_get_bind {next : σ → Step σ β} {next' : τ → Step τ β}
    (hnext : ∀ s, Mirrors f (next s) (next' (f s))) :
    Mirrors f (get >>= next) (get >>= next') := by
  intro s
  rw [runFrom_bind_of_ok (runFrom_get s), runFrom_bind_of_ok (runFrom_get (f s))]
  exact hnext s s

theorem mirrors_ite {c : Prop} [Decidable c] {yes no : Step σ α} {yes' no' : Step τ α}
    (hyes : Mirrors f yes yes') (hno : Mirrors f no no') :
    Mirrors f (if c then yes else no) (if c then yes' else no') := by
  split
  · exact hyes
  · exact hno

theorem mirrors_attempt {step : Step σ α} {step' : Step τ α} (h : Mirrors f step step') :
    Mirrors f (attempt step) (attempt step') := by
  intro s
  rw [runFrom_attempt, runFrom_attempt, h s]

/-- What is forgotten of the first part does not matter to the second. -/
theorem mirrors_second (step : Step ρ α) :
    Mirrors (Prod.map f id) (step.second : Step (σ × ρ) α) (step.second : Step (τ × ρ) α) :=
  fun _ => rfl

end Step

end DataParallel

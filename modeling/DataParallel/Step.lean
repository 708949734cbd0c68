import DataParallel.Fault

/-!
# Steps that may fail

A step runs on a state and ends with a result or a fault; in both cases it leaves a state, so
what was changed before a fault stays changed.
-/

namespace DataParallel

/-- A computation on a state `σ` that may fail and keeps its changes when it does. -/
abbrev Step (σ α : Type) := ExceptT Fault (StateM σ) α

namespace Step

variable {σ τ α : Type}

/-- Runs a step. -/
def runFrom (s : σ) (step : Step σ α) : Except Fault α × σ := step.run s

/-- A step made of a function. -/
def make (f : σ → Except Fault α × σ) : Step σ α := ExceptT.mk f

/-- A step that works on one part of a larger state. -/
def within (get : τ → σ) (put : σ → τ → τ) (step : Step σ α) : Step τ α :=
  make fun t =>
    let (result, s) := step.runFrom (get t)
    (result, put s t)

/-- A step that works on the first of two states. -/
def first (step : Step σ α) : Step (σ × τ) α :=
  step.within Prod.fst fun s pair => (s, pair.2)

/-- A step that works on the second of two states. -/
def second (step : Step τ α) : Step (σ × τ) α :=
  step.within Prod.snd fun t pair => (pair.1, t)

/-- A step that always succeeds, with the outcome of another. -/
def attempt (step : Step σ α) : Step σ (Except Fault α) :=
  make fun s =>
    let (result, s') := step.runFrom s
    (.ok result, s')

/-- A step that leaves the state alone. -/
def ofExcept (result : Except Fault α) : Step σ α :=
  make fun s => (result, s)

@[simp] theorem runFrom_make (f : σ → Except Fault α × σ) (s : σ) :
    (make f).runFrom s = f s := rfl

@[simp] theorem runFrom_pure (a : α) (s : σ) :
    (pure a : Step σ α).runFrom s = (.ok a, s) := rfl

@[simp] theorem runFrom_throw (fault : Fault) (s : σ) :
    (throw fault : Step σ α).runFrom s = (.error fault, s) := rfl

@[simp] theorem runFrom_ofExcept (result : Except Fault α) (s : σ) :
    (ofExcept result : Step σ α).runFrom s = (result, s) := rfl

@[simp] theorem runFrom_get (s : σ) : (get : Step σ σ).runFrom s = (.ok s, s) := rfl

@[simp] theorem runFrom_modify (f : σ → σ) (s : σ) :
    (modify f : Step σ PUnit).runFrom s = (.ok ⟨⟩, f s) := rfl

@[simp] theorem runFrom_modifyGet (f : σ → α × σ) (s : σ) :
    (modifyGet f : Step σ α).runFrom s = (.ok (f s).1, (f s).2) := rfl

@[simp] theorem runFrom_within (get : τ → σ) (put : σ → τ → τ) (step : Step σ α) (t : τ) :
    (step.within get put).runFrom t =
      ((step.runFrom (get t)).1, put (step.runFrom (get t)).2 t) := rfl

@[simp] theorem runFrom_first (step : Step σ α) (s : σ) (t : τ) :
    (step.first : Step (σ × τ) α).runFrom (s, t) =
      ((step.runFrom s).1, (step.runFrom s).2, t) := rfl

@[simp] theorem runFrom_second (step : Step τ α) (s : σ) (t : τ) :
    (step.second : Step (σ × τ) α).runFrom (s, t) =
      ((step.runFrom t).1, s, (step.runFrom t).2) := rfl

@[simp] theorem runFrom_attempt (step : Step σ α) (s : σ) :
    (attempt step).runFrom s = (.ok (step.runFrom s).1, (step.runFrom s).2) := rfl

theorem runFrom_bind {β : Type} (step : Step σ α) (next : α → Step σ β) (s : σ) :
    (step >>= next).runFrom s =
      match step.runFrom s with
      | (.ok a, s') => (next a).runFrom s'
      | (.error fault, s') => (.error fault, s') := by
  have h : (step >>= next).runFrom s =
      ExceptT.bindCont next (step.runFrom s).1 (step.runFrom s).2 := rfl
  rw [h]
  rcases step.runFrom s with ⟨_ | _, _⟩ <;> rfl

@[simp] theorem runFrom_map {β : Type} (f : α → β) (step : Step σ α) (s : σ) :
    (f <$> step).runFrom s = ((step.runFrom s).1.map f, (step.runFrom s).2) := by
  have h : f <$> step = step >>= fun a => pure (f a) := rfl
  rw [h, runFrom_bind]
  rcases step.runFrom s with ⟨_ | _, _⟩ <;> rfl

theorem runFrom_bind_of_ok {β : Type} {step : Step σ α} {next : α → Step σ β} {s s' : σ} {a : α}
    (h : step.runFrom s = (.ok a, s')) :
    (step >>= next).runFrom s = (next a).runFrom s' := by
  rw [runFrom_bind, h]

theorem runFrom_bind_of_error {β : Type} {step : Step σ α} {next : α → Step σ β} {s s' : σ}
    {fault : Fault} (h : step.runFrom s = (.error fault, s')) :
    (step >>= next).runFrom s = (.error fault, s') := by
  rw [runFrom_bind, h]

theorem runFrom_bind_eq_ok {β : Type} {step : Step σ α} {next : α → Step σ β} {s t : σ} {b : β}
    (h : (step >>= next).runFrom s = (.ok b, t)) :
    ∃ a s', step.runFrom s = (.ok a, s') ∧ (next a).runFrom s' = (.ok b, t) := by
  rw [runFrom_bind] at h
  rcases hstep : step.runFrom s with ⟨_ | a, s'⟩
  · rw [hstep] at h
    exact absurd (congrArg Prod.fst h) (by simp)
  · rw [hstep] at h
    exact ⟨a, s', rfl, h⟩

theorem runFrom_bind_eq_error {β : Type} {step : Step σ α} {next : α → Step σ β} {s t : σ}
    {fault : Fault} (h : (step >>= next).runFrom s = (.error fault, t)) :
    step.runFrom s = (.error fault, t) ∨
      ∃ a s', step.runFrom s = (.ok a, s') ∧ (next a).runFrom s' = (.error fault, t) := by
  rw [runFrom_bind] at h
  rcases hstep : step.runFrom s with ⟨fault' | a, s'⟩
  · rw [hstep] at h
    obtain ⟨hfault, hstate⟩ := Prod.mk.inj h
    rw [Except.error.inj hfault, hstate]
    exact Or.inl rfl
  · rw [hstep] at h
    exact Or.inr ⟨a, s', rfl, h⟩

end Step

end DataParallel

import DataParallel.Host
import Mathlib.Order.Defs.Unbundled

/-!
# Steps that move the state in one direction

A step goes along a relation if every run of it, whether it succeeds or not,
leads to a state that is related to the one it began with.  For a preorder
this passes from the parts of a step to the whole, so that a statement about a
large step comes down to its elementary changes.
-/

namespace DataParallel

namespace Step

variable {σ τ α β : Type}

/-- Every run of the step leads to a related state. -/
def Along (R : σ → σ → Prop) (step : Step σ α) : Prop :=
  ∀ s, R s (step.runFrom s).2

/-- The states of a run that is known. -/
theorem Along.of_run {R : σ → σ → Prop} {step : Step σ α} {result : Except Fault α} {s t : σ}
    (h : Along R step) (hrun : step.runFrom s = (result, t)) : R s t := by
  have hst := h s
  rwa [hrun] at hst

theorem along_modify {R : σ → σ → Prop} {f : σ → σ} (h : ∀ s, R s (f s)) :
    Along R (modify f : Step σ PUnit) :=
  h

section Preorder

variable {R : σ → σ → Prop} [IsPreorder σ R]

theorem along_pure (a : α) : Along R (pure a : Step σ α) :=
  fun s => Std.Refl.refl s

theorem along_throw (fault : Fault) : Along R (throw fault : Step σ α) :=
  fun s => Std.Refl.refl s

/-- What stands after a fault is not run. -/
theorem along_throw_bind (fault : Fault) {next : α → Step σ β} :
    Along R (throw fault >>= next) :=
  fun s => Std.Refl.refl s

theorem along_ofExcept (result : Except Fault α) :
    Along R (ofExcept result : Step σ α) :=
  fun s => Std.Refl.refl s

theorem along_get : Along R (get : Step σ σ) :=
  fun s => Std.Refl.refl s

theorem along_bind {step : Step σ α} {next : α → Step σ β}
    (hstep : Along R step) (hnext : ∀ a, Along R (next a)) :
    Along R (step >>= next) := by
  intro s
  rw [runFrom_bind]
  have hfirst := hstep s
  rcases hrun : step.runFrom s with ⟨_ | a, s'⟩
  · rw [hrun] at hfirst
    exact hfirst
  · rw [hrun] at hfirst
    exact IsTrans.trans _ _ _ hfirst (hnext a s')

end Preorder

/-- The second parts of two states are related; nothing is said about the
first ones. -/
def Beside (R : τ → τ → Prop) (x y : σ × τ) : Prop := R x.2 y.2

instance {R : τ → τ → Prop} [IsPreorder τ R] : IsPreorder (σ × τ) (Beside R) where
  refl x := Std.Refl.refl (r := R) x.2
  trans _ _ _ := IsTrans.trans (r := R) _ _ _

theorem along_second {R : τ → τ → Prop} {step : Step τ α} (h : Along R step) :
    Along (Beside R : σ × τ → σ × τ → Prop) step.second :=
  fun x => h x.2

theorem along_first {R : τ → τ → Prop} [IsPreorder τ R] (step : Step σ α) :
    Along (Beside R : σ × τ → σ × τ → Prop) step.first :=
  fun x => Std.Refl.refl (r := R) x.2

/-- A change of the first part alone. -/
theorem along_modify_first {R : τ → τ → Prop} [IsPreorder τ R] (f : σ × τ → σ) :
    Along (Beside R) (modify fun x : σ × τ => (f x, x.2) : Step (σ × τ) PUnit) :=
  fun x => Std.Refl.refl (r := R) x.2

end Step

end DataParallel

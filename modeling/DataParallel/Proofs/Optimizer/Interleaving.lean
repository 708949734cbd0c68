import DataParallel.Proofs.Optimizer.Isolation

/-!
# Updates of several parameters

One optimizer serves all parameters of a server, and their updates come in any order.  Seen from
one parameter, the updates of the others are as good as not made: its own give the same weights and
faults, and leave the same count and the same state arrays, as if nothing else had been asked for.
-/

namespace DataParallel

namespace Optimizer

open Step

/-- A call for an update. -/
structure Update where
  id : String
  weight : Tensor
  grad : Tensor

/-- The call as a step. -/
def Update.step (u : Update) : Step Optimizer Tensor := update u.id u.weight u.grad

/-- The optimizer after an update, however it ended. -/
def Update.after (o : Optimizer) (u : Update) : Optimizer := (u.step.runFrom o).2

/-- The optimizer after some updates. -/
def afterUpdates (o : Optimizer) (updates : List Update) : Optimizer := updates.foldl Update.after o

/-- What the updates come to, each a weight or a fault, with the parameters that they are of. -/
def outcomes : Optimizer → List Update → List (String × Except Fault Tensor)
  | _, [] => []
  | o, u :: rest => (u.id, (u.step.runFrom o).1) :: outcomes (u.after o) rest

variable {id : String} {o o' : Optimizer}

/-- Optimizers that agree on a parameter go on agreeing if the updates of the others are left out
on one side, and give its own updates the same outcomes. -/
theorem Agree.outcomes (h : Agree id o o') (updates : List Update) :
    (o.outcomes updates).filter (·.1 == id) = o'.outcomes (updates.filter (·.id == id)) ∧
      Agree id (o.afterUpdates updates) (o'.afterUpdates (updates.filter (·.id == id))) := by
  induction updates generalizing o o' with
  | nil => exact ⟨rfl, h⟩
  | cons u rest ih =>
    by_cases hu : u.id = id
    · -- Both sides make this update.
      subst hu
      obtain ⟨hresult, hstate⟩ := coupled_update u.weight u.grad o o' h
      obtain ⟨hrest, hagree⟩ := ih hstate
      have hown : ∀ result, ((u.id, result) :: (u.after o).outcomes rest).filter (·.1 == u.id) =
          (u.id, result) :: ((u.after o).outcomes rest).filter (·.1 == u.id) :=
        fun _ => List.filter_cons_of_pos (beq_self_eq_true u.id)
      have hmade : (u :: rest).filter (·.id == u.id) = u :: rest.filter (·.id == u.id) :=
        List.filter_cons_of_pos (beq_self_eq_true u.id)
      rw [hmade]
      constructor
      · rw [Optimizer.outcomes, hown, Optimizer.outcomes, Update.step, hresult]
        exact congrArg _ hrest
      · exact hagree
    · -- The update is left out on the right, and changes nothing of the parameter on the left.
      have hkept : Agree id o (u.after o) := along_update hu u.weight u.grad o
      obtain ⟨hrest, hagree⟩ := ih (hkept.symm.trans h)
      have hother : ∀ result, ((u.id, result) :: (u.after o).outcomes rest).filter (·.1 == id) =
          ((u.after o).outcomes rest).filter (·.1 == id) :=
        fun _ => List.filter_cons_of_neg (by simpa using hu)
      have hleft : (u :: rest).filter (·.id == id) = rest.filter (·.id == id) :=
        List.filter_cons_of_neg (by simpa using hu)
      rw [hleft]
      constructor
      · rw [Optimizer.outcomes, hother]
        exact hrest
      · exact hagree

/-- Whatever an optimizer is asked for, a new one or one that was used before, each parameter has
the outcomes, the count and the state arrays that it has if only its own updates are made. -/
theorem parameters_apart (o : Optimizer) (updates : List Update) (id : String) :
    (o.outcomes updates).filter (·.1 == id) = o.outcomes (updates.filter (·.id == id)) ∧
      (o.afterUpdates updates).count id =
        (o.afterUpdates (updates.filter (·.id == id))).count id ∧
      ∀ part ∈ parts, (o.afterUpdates updates).state.lookup (key id part) =
        (o.afterUpdates (updates.filter (·.id == id))).state.lookup (key id part) := by
  obtain ⟨houtcomes, hagree⟩ := (Agree.refl id o).outcomes updates
  exact ⟨houtcomes, hagree.count, hagree.state⟩

end Optimizer

end DataParallel

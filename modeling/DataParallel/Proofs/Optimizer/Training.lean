import DataParallel.Proofs.Optimizer.FloatType

/-!
# Training one copy

The loop that data-parallel training is measured by: it keeps one weight, adds
up the gradients of each round from left to right, and lets the optimizer make
the next weight of the sum.
-/

namespace DataParallel

open Step

/-- The sum from left to right, if there is anything to add up. -/
def Tensor.sum? : List Tensor → Except Fault (Option Tensor)
  | [] => .ok none
  | t :: rest => some <$> rest.foldlM (fun sum u => sum.combine .add u) t

namespace Optimizer

/-- The weight after one gradient, or as it is if there is none. -/
def advance (id : String) (weight : Tensor) : Option Tensor → Step Optimizer Tensor
  | none => pure weight
  | some grad => update id weight grad

/-- The weight after some rounds, each with a list of gradients. -/
def train (id : String) : List (List Tensor) → Tensor → Step Optimizer Tensor
  | [], weight => pure weight
  | grads :: rounds, weight => do
    let grad ← Step.ofExcept (Tensor.sum? grads)
    let next ← advance id weight grad
    train id rounds next

/-- The weight after some rounds, of which a function says what they add up to. -/
def trainOn {α : Type} (sum : α → Except Fault (Option Tensor)) (id : String) :
    List α → Tensor → Step Optimizer Tensor
  | [], weight => pure weight
  | round :: rest, weight => do
    let grad ← Step.ofExcept (sum round)
    let next ← advance id weight grad
    trainOn sum id rest next

variable {id : String}

theorem train_eq_trainOn (rounds : List (List Tensor)) (weight : Tensor) :
    train id rounds weight = trainOn Tensor.sum? id rounds weight := by
  induction rounds generalizing weight with
  | nil => rfl
  | cons grads rounds ih => simp only [train, trainOn, ih]

theorem coupled_advance (weight : Tensor) (grad : Option Tensor) :
    Coupled (Agree id) (advance id weight grad) := by
  cases grad with
  | none => exact coupled_pure weight
  | some grad => exact coupled_update weight grad

theorem along_advance {id' : String} (hid : id' ≠ id) (weight : Tensor) (grad : Option Tensor) :
    Along (Agree id) (advance id' weight grad) := by
  cases grad with
  | none => exact along_pure weight
  | some grad => exact along_update hid weight grad

/-- Optimizers that agree on a parameter give it the same next weight. -/
theorem advance_of_agree {weight w : Tensor} {grad : Option Tensor} {o o' u : Optimizer}
    (hagree : Agree id o o') (hrun : (advance id weight grad).runFrom o = (.ok w, u)) :
    ∃ u', (advance id weight grad).runFrom o' = (.ok w, u') ∧ Agree id u u' := by
  obtain ⟨hresult, hstate⟩ := coupled_advance weight grad o o' hagree
  rw [hrun] at hresult hstate
  exact ⟨((advance id weight grad).runFrom o').2, Prod.ext hresult.symm rfl, hstate⟩

/-- A further round begins where the rounds before it ended. -/
theorem trainOn_append {α : Type} {sum : α → Except Fault (Option Tensor)} {rounds : List α}
    {round : α} {weight w next : Tensor} {grad : Option Tensor} {o o' o'' : Optimizer}
    (hrun : (trainOn sum id rounds weight).runFrom o = (.ok w, o'))
    (hgrad : sum round = .ok grad)
    (hnext : (advance id w grad).runFrom o' = (.ok next, o'')) :
    (trainOn sum id (rounds ++ [round]) weight).runFrom o = (.ok next, o'') := by
  induction rounds generalizing weight o with
  | nil =>
    obtain ⟨hw, ho⟩ := Prod.mk.inj hrun
    rw [← Except.ok.inj hw, ← ho] at hnext
    have hsum : (Step.ofExcept (sum round) : Step Optimizer _).runFrom o = (.ok grad, o) := by
      rw [hgrad]
      rfl
    rw [List.nil_append, trainOn, runFrom_bind_of_ok hsum, runFrom_bind_of_ok hnext]
    rfl
  | cons first rest ih =>
    obtain ⟨g, o₁, hfirst, hrun⟩ := runFrom_bind_eq_ok hrun
    obtain ⟨w₁, o₂, hadvance, hrun⟩ := runFrom_bind_eq_ok hrun
    rw [List.cons_append, trainOn, runFrom_bind_of_ok hfirst, runFrom_bind_of_ok hadvance]
    exact ih hrun

theorem train_append {rounds : List (List Tensor)} {grads : List Tensor} {weight w next : Tensor}
    {grad : Option Tensor} {o o' o'' : Optimizer}
    (hrun : (train id rounds weight).runFrom o = (.ok w, o'))
    (hgrad : Tensor.sum? grads = .ok grad)
    (hnext : (advance id w grad).runFrom o' = (.ok next, o'')) :
    (train id (rounds ++ [grads]) weight).runFrom o = (.ok next, o'') := by
  rw [train_eq_trainOn] at hrun ⊢
  exact trainOn_append hrun hgrad hnext

/-! ## Sums -/

/-- What holds of all that is added up, and of the sum of two, holds of the sum. -/
theorem sum?_induction {P : Tensor → Prop}
    (hadd : ∀ t u v, P t → P u → t.combine .add u = .ok v → P v) {grads : List Tensor}
    {grad : Tensor} (hgrads : ∀ t ∈ grads, P t) (hgrad : Tensor.sum? grads = .ok (some grad)) :
    P grad := by
  have hfold : ∀ (rest : List Tensor) (t : Tensor), (∀ u ∈ rest, P u) → P t →
      rest.foldlM (fun sum u => sum.combine .add u) t = .ok grad → P grad := by
    intro rest
    induction rest with
    | nil =>
      intro t _ ht hsum
      rw [← Except.ok.inj hsum]
      exact ht
    | cons u rest ih =>
      intro t hrest ht hsum
      rw [List.foldlM_cons] at hsum
      obtain ⟨sum, hstep, hsum⟩ := exists_of_bind_eq_ok hsum
      exact ih sum (fun v hv => hrest v (List.mem_cons_of_mem _ hv))
        (hadd t u sum ht (hrest u (List.mem_cons_self ..)) hstep) hsum
  rcases grads with _ | ⟨t, rest⟩
  · cases hgrad
  · rcases hsum : rest.foldlM (fun sum u => sum.combine .add u) t with fault | sum
    · rw [Tensor.sum?, hsum] at hgrad
      cases hgrad
    · rw [Tensor.sum?, hsum] at hgrad
      obtain rfl : sum = grad := Option.some.inj (Except.ok.inj hgrad)
      exact hfold rest t (fun u hu => hgrads u (List.mem_cons_of_mem _ hu))
        (hgrads t (List.mem_cons_self ..)) hsum

theorem dtype_sum? {p : Precision} {grads : List Tensor} {grad : Tensor}
    (hgrads : ∀ t ∈ grads, t.dtype = .native (.float p))
    (hgrad : Tensor.sum? grads = .ok (some grad)) : grad.dtype = .native (.float p) :=
  sum?_induction (fun _ _ _ ht hu hadd => Tensor.dtype_combine ht hu hadd) hgrads hgrad

theorem yields_advance {p : Precision} {weight : Tensor} {grad : Option Tensor}
    (hweight : weight.dtype = .native (.float p))
    (hgrad : ∀ g ∈ grad, g.dtype = .native (.float p)) :
    Yields (Suits id p) (advance id weight grad) fun t => t.dtype = .native (.float p) := by
  cases grad with
  | none => exact yields_pure hweight
  | some grad => exact yields_update hweight (hgrad grad rfl)

end Optimizer

end DataParallel

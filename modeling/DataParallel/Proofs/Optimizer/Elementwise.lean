import DataParallel.Proofs.Optimizer.WeightShape
import DataParallel.Proofs.Step.Simulates
import DataParallel.Proofs.Tensor.Single

/-!
# Updates element by element

A weight that is updated again and again, each time from what the last update made of it, is made of
elements that do not know of each other: each is what the same optimizer makes of it alone, from the
gradients' elements at its position, and so are the elements of the state arrays.  All that the
elements of a weight share is the count of its updates.
-/

namespace DataParallel

namespace Optimizer

open Step
open Tensor (IsSingle)

/-- The first optimizer keeps arrays of the shape for the parameter; the second one has its settings
and its count, and of each array the element at the position. -/
structure Follows (id : String) (rule : Rule) (s : Shape) (i : Nat) (o o' : Optimizer) : Prop where
  shaped : Shaped id rule s o
  rule : o'.rule = rule
  rate : o'.rate = o.rate
  rescale : o'.rescale = o.rescale
  clip : o'.clip = o.clip
  taken : o'.taken = o.taken
  count : o'.count id = o.count id
  state : ∀ part ∈ parts, o'.state.lookup (key id part) =
    (o.state.lookup (key id part)).map fun t => t.single i

section Parts

variable {id : String} {rule : Rule} {s : Shape} {i : Nat} (hi : i < s.size)

/-! ## Calculations -/

section Calculations

variable {weight weight' grad grad' v : Tensor} (hweight : IsSingle s i weight weight')
  (hgrad : IsSingle s i grad grad')

include hi hgrad

theorem preprocess_single {o o' : Optimizer} (ho : Follows id rule s i o o')
    (h : preprocess o grad = .ok v) : ∃ v', preprocess o' grad' = .ok v' ∧ IsSingle s i v v' := by
  obtain ⟨scaled, hscaled, h⟩ := exists_of_bind_eq_ok h
  obtain ⟨scaled', hscaled', hsingle⟩ :=
    Tensor.combineValue_single hi ho.shaped.rescale hgrad hscaled
  rw [preprocess, ho.rescale, hscaled', ok_bind, ho.clip]
  split at h
  · obtain rfl := Except.ok.inj h
    exact ⟨scaled', rfl, hsingle⟩
  · obtain ⟨limit, hlimit, h⟩ := exists_of_bind_eq_ok h
    rw [hlimit]
    exact Tensor.clip_single hi hsingle h

theorem corrected_single {beta n : Value} (h : corrected beta n grad = .ok v) :
    ∃ v', corrected beta n grad' = .ok v' ∧ IsSingle s i v v' := by
  obtain ⟨base, hbase, h⟩ := exists_of_bind_eq_ok h
  obtain ⟨exponent, hexponent, h⟩ := exists_of_bind_eq_ok h
  obtain ⟨power, hpower, h⟩ := exists_of_bind_eq_ok h
  rw [corrected, hbase, ok_bind, hexponent, ok_bind, hpower]
  exact Tensor.combineScalar_single hi hgrad h

include hweight

theorem decayed_single {decay : Value} (hdecay : decay.isSequence = false)
    (h : decayed decay weight grad = .ok v) :
    ∃ v', decayed decay weight' grad' = .ok v' ∧ IsSingle s i v v' := by
  rw [decayed] at h ⊢
  split at h
  · next hzero =>
    obtain rfl := Except.ok.inj h
    rw [if_pos hzero]
    exact ⟨grad', rfl, hgrad⟩
  · next hzero =>
    obtain ⟨part, hpart, h⟩ := exists_of_bind_eq_ok h
    obtain ⟨part', hpart', hsingle⟩ := Tensor.combineValue_single hi hdecay hweight hpart
    rw [if_neg hzero, hpart', ok_bind]
    exact Tensor.combine_single hi hgrad hsingle h

theorem descend_single {rate : Value} (hrate : rate.isSequence = false)
    (h : descend weight rate grad = .ok v) :
    ∃ v', descend weight' rate grad' = .ok v' ∧ IsSingle s i v v' := by
  obtain ⟨move, hmove, h⟩ := exists_of_bind_eq_ok h
  obtain ⟨move', hmove', hsingle⟩ := Tensor.combineSingle_single hi hrate hgrad hmove
  rw [descend, hmove', ok_bind]
  exact Tensor.combine_single hi hweight hsingle h

theorem average_single {beta : Value} (h : average beta weight grad = .ok v) :
    ∃ v', average beta weight' grad' = .ok v' ∧ IsSingle s i v v' := by
  obtain ⟨kept, hkept, h⟩ := exists_of_bind_eq_ok h
  obtain ⟨base, hbase, h⟩ := exists_of_bind_eq_ok h
  obtain ⟨added, hadded, h⟩ := exists_of_bind_eq_ok h
  have hbeta : beta.isSequence = false := by
    cases beta <;> first | rfl | cases hbase
  obtain ⟨kept', hkept', hold⟩ := Tensor.combineValue_single hi hbeta hweight hkept
  obtain ⟨added', hadded', hnew⟩ := Tensor.combineScalar_single hi hgrad hadded
  rw [average, hkept', ok_bind, hbase, ok_bind, hadded', ok_bind]
  exact Tensor.combine_single hi hold hnew h

end Calculations

/-! ## State arrays -/

theorem simulates_need (name : String) :
    Simulates (Follows id rule s i) (need name) (need name) fun _ _ => True := by
  refine simulates_get_bind fun o o' ho => simulates_ofExcept fun a ha => ?_
  rw [available, ho.taken]
  exact ⟨a, ha, trivial⟩

theorem Follows.put {o o' : Optimizer} (h : Follows id rule s i o o') {part : String}
    {t t' : Tensor} (ht : IsSingle s i t t') :
    Follows id rule s i { o with state := Keyed.put (key id part) t o.state }
      { o' with state := Keyed.put (key id part) t' o'.state } := by
  refine ⟨h.shaped.put ht.shape, h.rule, h.rate, h.rescale, h.clip, h.taken, h.count,
    fun part' hpart' => ?_⟩
  dsimp only
  rw [Keyed.lookup_put, Keyed.lookup_put]
  split
  · exact congrArg some ht.single
  · exact h.state part' hpart'

theorem simulates_slot {part : String} (hpart : part ∈ parts) {weight weight' : Tensor}
    (hweight : IsSingle s i weight weight') :
    Simulates (Follows id rule s i) (slot id part weight) (slot id part weight')
      (IsSingle s i) := by
  refine simulates_bind (simulates_need _) fun _ _ _ => simulates_get_bind fun o o' ho => ?_
  rw [ho.state part hpart]
  rcases hlookup : o.state.lookup (key id part) with _ | t
  · -- Zeros are made on both sides.
    have hzeros : IsSingle s i (.zeros weight.dtype weight.shape)
        (.zeros weight'.dtype weight'.shape) := by
      refine ⟨hweight.shape, ?_⟩
      rw [Tensor.single_zeros, hweight.single]
      rfl
    exact simulates_bind (simulates_modify fun o o' ho => ho.put hzeros)
      fun _ _ _ => simulates_pure hzeros
  · exact simulates_pure ⟨ho.shaped.state part hpart t hlookup, rfl⟩

include hi

theorem simulates_overwrite (part : String) {old old' value value' : Tensor}
    (hold : IsSingle s i old old') (hvalue : IsSingle s i value value') :
    Simulates (Follows id rule s i) (overwrite id part old value) (overwrite id part old' value')
      (IsSingle s i) :=
  simulates_bind (simulates_ofExcept fun _ h => Tensor.assign_single hi hold hvalue h)
    fun _ _ ht => simulates_bind (simulates_modify fun _ _ ho => ho.put ht)
    fun _ _ _ => simulates_pure ht

/-! ## The rules -/

section Rules

variable {weight weight' grad grad' : Tensor} (hweight : IsSingle s i weight weight')
  (hgrad : IsSingle s i grad grad')

include hweight hgrad

theorem simulates_applySgd {momentum decay : Value} (hmomentum : momentum.isSequence = false)
    (hdecay : decay.isSequence = false) :
    Simulates (Follows id rule s i) (applySgd momentum decay id weight grad)
      (applySgd momentum decay id weight' grad') (IsSingle s i) := by
  refine simulates_bind (simulates_ofExcept fun _ h => decayed_single hi hweight hgrad hdecay h)
    fun g g' hg => simulates_get_bind fun o o' ho => ?_
  dsimp only
  rw [ho.rate]
  have hrate := ho.shaped.rate
  split
  · exact simulates_ofExcept fun _ h => descend_single hi hweight hg hrate h
  · refine simulates_bind (simulates_slot (by simp [parts]) hweight) fun v v' hv => ?_
    refine simulates_bind
      (simulates_ofExcept fun _ h => Tensor.combineValue_single hi hmomentum hv h)
      fun carried carried' hcarried => simulates_bind
      (simulates_ofExcept fun _ h => Tensor.combine_single hi hcarried hg h)
      fun sum sum' hsum => simulates_bind (simulates_overwrite hi _ hv hsum) fun v v' hv => ?_
    exact simulates_ofExcept fun _ h => descend_single hi hweight hv hrate h

theorem simulates_applyAdam {beta₁ beta₂ epsilon : Value} (hepsilon : epsilon.isSequence = false) :
    Simulates (Follows id rule s i) (applyAdam beta₁ beta₂ epsilon id weight grad)
      (applyAdam beta₁ beta₂ epsilon id weight' grad') (IsSingle s i) := by
  refine simulates_bind (simulates_slot (by simp [parts]) hweight) fun m m' hm =>
    simulates_bind (simulates_slot (by simp [parts]) hweight) fun v v' hv =>
    simulates_bind (simulates_need _) fun _ _ _ => simulates_get_bind fun o o' ho => ?_
  dsimp only
  rw [ho.count]
  refine simulates_bind (simulates_ofExcept fun _ h => average_single hi hm hgrad h)
    fun a a' ha => simulates_bind (simulates_overwrite hi _ hm ha) fun m m' hm => ?_
  refine simulates_bind
    (simulates_ofExcept fun _ h => average_single hi hv (Tensor.square_single hi hgrad) h)
    fun a a' ha => simulates_bind (simulates_overwrite hi _ hv ha) fun v v' hv => ?_
  refine simulates_bind (simulates_ofExcept fun _ h => corrected_single hi hm h)
    fun mean mean' hmean => simulates_bind (simulates_ofExcept fun _ h => corrected_single hi hv h)
    fun variance variance' hvariance => simulates_get_bind fun o o' ho => ?_
  rw [ho.rate]
  refine simulates_bind
    (simulates_ofExcept fun _ h => Tensor.combineValue_single hi ho.shaped.rate hmean h)
    fun scaled scaled' hscaled => simulates_bind (simulates_ofExcept fun _ h =>
      Tensor.combineValue_single hi hepsilon (Tensor.sqrt_single hi hvariance) h)
    fun spread spread' hspread => simulates_bind
      (simulates_ofExcept fun _ h => Tensor.combine_single hi hscaled hspread h)
    fun move move' hmove => ?_
  exact simulates_ofExcept fun _ h => Tensor.combine_single hi hweight hmove h

/-- An update does to each element what it does to it alone. -/
theorem simulates_update :
    Simulates (Follows id rule s i) (update id weight grad) (update id weight' grad')
      (IsSingle s i) := by
  have hcount : ∀ n, ∀ o o', Follows id rule s i o o' →
      Follows id rule s i { o with counts := Keyed.put id n o.counts }
        { o' with counts := Keyed.put id n o'.counts } := by
    intro n o o' ho
    refine ⟨⟨ho.shaped.rule, ho.shaped.plain, ho.shaped.state⟩, ho.rule, ho.rate, ho.rescale,
      ho.clip, ho.taken, ?_, ho.state⟩
    rw [count, count, Keyed.lookup_put, Keyed.lookup_put, if_pos rfl, if_pos rfl]
  have hcounted : ∀ o o', Follows id rule s i o o' → ∀ n, counted (o.count id) = .ok n →
      ∃ n', counted (o'.count id) = .ok n' ∧ n = n' := by
    intro o o' ho n hn
    rw [ho.count]
    exact ⟨n, hn, rfl⟩
  refine simulates_bind (simulates_need _) fun _ _ _ => simulates_get_bind fun o o' ho =>
    simulates_bind (simulates_ofExcept (hcounted o o' ho)) fun n n' hn => ?_
  subst hn
  refine simulates_bind (simulates_modify (hcount n)) fun _ _ _ =>
    simulates_bind (simulates_need _) fun _ _ _ => simulates_get_bind fun o o' ho =>
    simulates_bind (simulates_ofExcept fun _ h => preprocess_single hi hgrad ho h) fun g g' hg =>
    simulates_bind (simulates_need _) fun _ _ _ => simulates_get_bind fun o o' ho => ?_
  rw [ho.rule, ho.shaped.rule]
  rcases rule with ⟨momentum, decay⟩ | ⟨beta₁, beta₂, epsilon⟩
  · have hmomentum : momentum.isSequence = false :=
      ho.shaped.plain ("momentum", momentum) (by simp [hyperparameters, ho.shaped.rule])
    exact simulates_applySgd hi hweight hg hmomentum ho.shaped.decay
  · exact simulates_applyAdam hi hweight hg ho.shaped.epsilon

end Rules

end Parts

/-! ## Sequences of updates -/

/-- The weight after some gradients, each of which updates what the one before it has left. -/
def descent (id : String) : List Tensor → Tensor → Step Optimizer Tensor
  | [], weight => pure weight
  | grad :: rest, weight => do descent id rest (← update id weight grad)

theorem descent_append (id : String) (before after : List Tensor) (weight : Tensor) :
    descent id (before ++ after) weight =
      descent id before weight >>= fun w => descent id after w := by
  induction before generalizing weight with
  | nil => rfl
  | cons grad rest ih =>
    rw [List.cons_append, descent, descent, bind_assoc]
    exact bind_congr fun w => ih w

theorem simulates_descent {id : String} {rule : Rule} {s : Shape} {i : Nat} (hi : i < s.size)
    {grads : List Tensor} (hgrads : ∀ g ∈ grads, g.shape = s) {weight weight' : Tensor}
    (hweight : IsSingle s i weight weight') :
    Simulates (Follows id rule s i) (descent id grads weight)
      (descent id (grads.map fun g => g.single i) weight') (IsSingle s i) := by
  induction grads generalizing weight weight' with
  | nil => exact simulates_pure hweight
  | cons grad rest ih =>
    have hgrad : IsSingle s i grad (grad.single i) := ⟨hgrads grad List.mem_cons_self, rfl⟩
    exact simulates_bind (simulates_update hi hweight hgrad) fun w w' hw =>
      ih (fun g hg => hgrads g (List.mem_cons_of_mem _ hg)) hw

theorem keeps_descent {id : String} {rule : Rule} {s : Shape} {grads : List Tensor}
    (hgrads : ∀ g ∈ grads, g.shape = s) {weight : Tensor} (hweight : weight.shape = s) :
    Keeps (Shaped id rule s) (descent id grads weight) fun t => t.shape = s := by
  induction grads generalizing weight with
  | nil => exact keeps_pure hweight
  | cons grad rest ih =>
    have hwithin : grad.shape.Within s := by
      rw [hgrads grad List.mem_cons_self]
      exact .refl s
    exact keeps_bind (keeps_update hweight (Or.inr hwithin)) fun w hw =>
      ih (fun g hg => hgrads g (List.mem_cons_of_mem _ hg)) hw

/-- An optimizer without arrays for the parameter follows itself. -/
theorem follows_self {id : String} {o : Optimizer}
    (hplain : ∀ h ∈ o.hyperparameters, h.2.isSequence = false)
    (hnew : ∀ part ∈ parts, o.state.lookup (key id part) = none) (s : Shape) (i : Nat) :
    Follows id o.rule s i o o := by
  refine ⟨⟨rfl, hplain, fun part hpart t ht => ?_⟩, rfl, rfl, rfl, rfl, rfl, rfl,
    fun part hpart => ?_⟩
  · rw [hnew part hpart] at ht
    cases ht
  · rw [hnew part hpart]
    rfl

/-- Let the gradients be of the shape of the weight, and let every update succeed, beginning with
the result of the one before.  After any number of updates the weight and the state arrays have this
shape, and their elements at a position are what the same optimizer makes, in as many updates, of
the elements of the weight and of the gradients at this position alone.  Floats are of half, single
or double precision: nothing is calculated with long ones here. -/
theorem updates_elementwise {o : Optimizer} {id : String}
    (hplain : ∀ h ∈ o.hyperparameters, h.2.isSequence = false)
    (hnew : ∀ part ∈ parts, o.state.lookup (key id part) = none) {weight : Tensor}
    {grads : List Tensor} (hgrads : ∀ g ∈ grads, g.shape = weight.shape) {w : Tensor}
    {o' : Optimizer} (hrun : (descent id grads weight).runFrom o = (.ok w, o')) (k : Nat) :
    ∃ wₖ oₖ, (descent id (grads.take k) weight).runFrom o = (.ok wₖ, oₖ) ∧
      wₖ.shape = weight.shape ∧
      (∀ part ∈ parts, ∀ t, oₖ.state.lookup (key id part) = some t → t.shape = weight.shape) ∧
      ∀ i < weight.size, ∃ o₁,
        (descent id ((grads.take k).map fun g => g.single i) (weight.single i)).runFrom o =
            (.ok (wₖ.single i), o₁) ∧
          o₁.count id = oₖ.count id ∧
          ∀ part ∈ parts, o₁.state.lookup (key id part) =
            (oₖ.state.lookup (key id part)).map fun t => t.single i := by
  have hsplit := descent_append id (grads.take k) (grads.drop k) weight
  rw [List.take_append_drop] at hsplit
  rw [hsplit] at hrun
  obtain ⟨wₖ, oₖ, hfirst, -⟩ := runFrom_bind_eq_ok hrun
  have htaken : ∀ g ∈ grads.take k, g.shape = weight.shape :=
    fun g hg => hgrads g (List.mem_of_mem_take hg)
  have hself := follows_self hplain hnew weight.shape
  obtain ⟨hshaped, hshape⟩ := keeps_descent htaken rfl o (hself 0).shaped
  rw [hfirst] at hshaped hshape
  refine ⟨wₖ, oₖ, hfirst, hshape wₖ rfl, hshaped.state, fun i hi => ?_⟩
  obtain ⟨w₁, o₁, hsingle, ho, hw⟩ :=
    simulates_descent hi htaken ⟨rfl, rfl⟩ o o wₖ oₖ (hself i) hfirst
  obtain ⟨-, rfl⟩ := hw
  exact ⟨o₁, hsingle, ho.count, ho.state⟩

/-! ## A trial -/

/-- Gradient descent with a velocity that loses half of itself with every update. -/
def halving : Optimizer := { sgd with rule := .sgd (.float 0.5) (.float 0.0) }

theorem updates_elementwise_halving :
    let weight := Tensor.zeros .float64 [1, 2]
    let grads := [Tensor.ones .float64 [1, 2], .ones .float64 [1, 2]]
    ∃ w o₁, (descent "w" (grads.map fun g => g.single 1) (weight.single 1)).runFrom halving =
        (.ok (w.single 1), o₁) ∧
      ((descent "w" grads weight).runFrom halving).1.toOption = some w := by
  intro weight grads
  obtain ⟨w, hw⟩ : ∃ w, ((descent "w" grads weight).runFrom halving).1.toOption = some w :=
    Option.isSome_iff_exists.mp (by decide +kernel)
  rcases hrun : (descent "w" grads weight).runFrom halving with ⟨fault | u, o'⟩
  · rw [hrun] at hw
    cases hw
  · rw [hrun] at hw
    obtain rfl : u = w := Option.some.inj hw
    obtain ⟨wₖ, oₖ, hwhole, -, -, hsingle⟩ :=
      updates_elementwise (by decide) (by decide) (by decide) hrun 2
    obtain ⟨o₁, hone, -, -⟩ := hsingle 1 (by decide)
    obtain rfl : u = wₖ := Except.ok.inj (Prod.mk.inj (hrun.symm.trans hwhole)).1
    exact ⟨u, o₁, hone, rfl⟩

end Optimizer

end DataParallel

import DataParallel.Proofs.Optimizer.Isolation
import DataParallel.Proofs.Step.Yields
import DataParallel.Proofs.Tensor.FloatType

/-!
# Updates keep the float type

A weight and a gradient of one float type give a weight of this type, if no
setting is a list and the state arrays of the parameter have the type already.
State arrays that an update makes have it.
-/

namespace DataParallel

namespace Optimizer

open Step

/-- The optimizer updates a parameter within a float type. -/
structure Suits (id : String) (p : Precision) (o : Optimizer) : Prop where
  plain : ∀ h ∈ o.hyperparameters, h.2.isSequence = false
  state : ∀ part ∈ parts, ∀ t, o.state.lookup (key id part) = some t →
    t.dtype = .native (.float p)

/-- An optimizer without state arrays suits every parameter. -/
theorem suits_of_state_eq_nil {o : Optimizer} (hstate : o.state = [])
    (hplain : ∀ h ∈ o.hyperparameters, h.2.isSequence = false) (id : String) (p : Precision) :
    o.Suits id p := by
  refine ⟨hplain, fun part _ t ht => ?_⟩
  rw [hstate] at ht
  cases ht

section Parts

variable {id : String} {p : Precision}

theorem Suits.agree {o o' : Optimizer} (h : Suits id p o) (ho : Agree id o o') :
    Suits id p o' := by
  constructor
  · intro entry hentry
    apply h.plain entry
    have hsame : o.hyperparameters = o'.hyperparameters := by
      rw [hyperparameters, hyperparameters, ho.rate, ho.rescale, ho.clip, ho.rule]
    rw [hsame]
    exact hentry
  · intro part hpart t ht
    apply h.state part hpart
    rw [ho.state part hpart, ht]

theorem Suits.rate {o : Optimizer} (h : Suits id p o) : o.rate.isSequence = false :=
  h.plain ("learning_rate", o.rate) (by simp [hyperparameters])

theorem Suits.rescale {o : Optimizer} (h : Suits id p o) : o.rescale.isSequence = false :=
  h.plain ("rescale_grad", o.rescale) (by simp [hyperparameters])

theorem Suits.sgd {o : Optimizer} (h : Suits id p o) {momentum decay : Value}
    (hrule : o.rule = .sgd momentum decay) :
    momentum.isSequence = false ∧ decay.isSequence = false :=
  ⟨h.plain ("momentum", momentum) (by simp [hyperparameters, hrule]),
    h.plain ("weight_decay", decay) (by simp [hyperparameters, hrule])⟩

theorem Suits.adam {o : Optimizer} (h : Suits id p o) {beta₁ beta₂ epsilon : Value}
    (hrule : o.rule = .adam beta₁ beta₂ epsilon) :
    beta₁.isSequence = false ∧ beta₂.isSequence = false ∧ epsilon.isSequence = false :=
  ⟨h.plain ("beta1", beta₁) (by simp [hyperparameters, hrule]),
    h.plain ("beta2", beta₂) (by simp [hyperparameters, hrule]),
    h.plain ("epsilon", epsilon) (by simp [hyperparameters, hrule])⟩

/-! ## The gradient -/

theorem dtype_preprocess {o : Optimizer} (h : Suits id p o) {grad g : Tensor}
    (hgrad : grad.dtype = .native (.float p)) (hg : preprocess o grad = .ok g) :
    g.dtype = .native (.float p) := by
  obtain ⟨scaled, hscaled, hg⟩ := exists_of_bind_eq_ok hg
  have hdtype := Tensor.dtype_combineValue h.rescale hgrad hscaled
  split at hg
  · rw [← Except.ok.inj hg]
    exact hdtype
  · obtain ⟨limit, -, hg⟩ := exists_of_bind_eq_ok hg
    exact Tensor.dtype_clip hdtype hg

theorem dtype_decayed {decay : Value} (hdecay : decay.isSequence = false)
    {weight grad g : Tensor} (hweight : weight.dtype = .native (.float p))
    (hgrad : grad.dtype = .native (.float p)) (hg : decayed decay weight grad = .ok g) :
    g.dtype = .native (.float p) := by
  rw [decayed] at hg
  split at hg
  · rw [← Except.ok.inj hg]
    exact hgrad
  · obtain ⟨part, hpart, hg⟩ := exists_of_bind_eq_ok hg
    exact Tensor.dtype_combine hgrad (Tensor.dtype_combineValue hdecay hweight hpart) hg

theorem dtype_descend {rate : Value} (hrate : rate.isSequence = false)
    {weight direction w : Tensor} (hweight : weight.dtype = .native (.float p))
    (hdirection : direction.dtype = .native (.float p))
    (hw : descend weight rate direction = .ok w) : w.dtype = .native (.float p) := by
  obtain ⟨move, hmove, hw⟩ := exists_of_bind_eq_ok hw
  exact Tensor.dtype_combine hweight (Tensor.dtype_combineSingle hrate hdirection hmove) hw

theorem dtype_average {beta : Value} (hbeta : beta.isSequence = false) {old new t : Tensor}
    (hold : old.dtype = .native (.float p)) (hnew : new.dtype = .native (.float p))
    (ht : average beta old new = .ok t) : t.dtype = .native (.float p) := by
  obtain ⟨kept, hkept, ht⟩ := exists_of_bind_eq_ok ht
  obtain ⟨s, -, ht⟩ := exists_of_bind_eq_ok ht
  obtain ⟨added, hadded, ht⟩ := exists_of_bind_eq_ok ht
  exact Tensor.dtype_combine (Tensor.dtype_combineValue hbeta hold hkept)
    (Tensor.dtype_combineScalar hnew hadded) ht

theorem dtype_corrected {beta n : Value} {moment t : Tensor}
    (hmoment : moment.dtype = .native (.float p)) (ht : corrected beta n moment = .ok t) :
    t.dtype = .native (.float p) := by
  obtain ⟨base, -, ht⟩ := exists_of_bind_eq_ok ht
  obtain ⟨exponent, -, ht⟩ := exists_of_bind_eq_ok ht
  obtain ⟨power, -, ht⟩ := exists_of_bind_eq_ok ht
  exact Tensor.dtype_combineScalar hmoment ht

/-! ## State arrays -/

theorem yields_need (name : String) : Yields (Suits id p) (need name) fun _ => True :=
  yields_bind yields_get fun _ _ => yields_ofExcept fun _ _ => trivial

theorem Suits.put {o : Optimizer} (h : Suits id p o) {part : String} {t : Tensor}
    (ht : t.dtype = .native (.float p)) :
    Suits id p { o with state := Keyed.put (key id part) t o.state } := by
  refine ⟨h.plain, fun part' hpart' u hu => ?_⟩
  dsimp only at hu
  rw [Keyed.lookup_put] at hu
  split at hu
  · rw [← Option.some.inj hu]
    exact ht
  · exact h.state part' hpart' u hu

theorem yields_slot {part : String} (hpart : part ∈ parts) {weight : Tensor}
    (hweight : weight.dtype = .native (.float p)) :
    Yields (Suits id p) (slot id part weight) fun t => t.dtype = .native (.float p) := by
  refine yields_bind (yields_need _) fun _ _ => yields_bind yields_get fun o ho => ?_
  rcases hlookup : o.state.lookup (key id part) with _ | t
  · have hput : ∀ o : Optimizer, Suits id p o → Suits id p { o with
        state := Keyed.put (key id part) (Tensor.zeros weight.dtype weight.shape) o.state } :=
      fun o ho => ho.put hweight
    exact yields_bind (yields_modify hput) fun _ _ => yields_pure hweight
  · exact yields_pure (ho.state part hpart t hlookup)

theorem yields_overwrite (part : String) {old value : Tensor}
    (hold : old.dtype = .native (.float p)) :
    Yields (Suits id p) (overwrite id part old value)
      fun t => t.dtype = .native (.float p) := by
  have hassigned : ∀ t, old.assign value = .ok t → t.dtype = .native (.float p) :=
    fun t ht => (Tensor.dtype_assign ht).trans hold
  refine yields_bind (yields_ofExcept hassigned) fun t ht => ?_
  exact yields_bind (yields_modify fun o ho => ho.put ht) fun _ _ => yields_pure ht

/-! ## The rules -/

section Rules

variable {weight grad : Tensor} (hweight : weight.dtype = .native (.float p))
  (hgrad : grad.dtype = .native (.float p))

include hweight hgrad

theorem yields_applySgd {momentum decay : Value} (hmomentum : momentum.isSequence = false)
    (hdecay : decay.isSequence = false) :
    Yields (Suits id p) (applySgd momentum decay id weight grad)
      fun t => t.dtype = .native (.float p) := by
  refine yields_bind (yields_ofExcept fun g hg => dtype_decayed hdecay hweight hgrad hg)
    fun g hg => yields_bind yields_get fun o ho => ?_
  dsimp only
  split
  · exact yields_ofExcept fun w hw => dtype_descend ho.rate hweight hg hw
  · refine yields_bind (yields_slot (by simp [parts]) hweight) fun velocity hvelocity => ?_
    refine yields_bind
      (yields_ofExcept fun t ht => Tensor.dtype_combineValue hmomentum hvelocity ht)
      fun carried hcarried => ?_
    refine yields_bind (yields_ofExcept fun t ht => Tensor.dtype_combine hcarried hg ht)
      fun sum _ => ?_
    refine yields_bind (yields_overwrite _ hvelocity) fun velocity hvelocity => ?_
    exact yields_ofExcept fun w hw => dtype_descend ho.rate hweight hvelocity hw

theorem yields_applyAdam {beta₁ beta₂ epsilon : Value} (hbeta₁ : beta₁.isSequence = false)
    (hbeta₂ : beta₂.isSequence = false) (hepsilon : epsilon.isSequence = false) :
    Yields (Suits id p) (applyAdam beta₁ beta₂ epsilon id weight grad)
      fun t => t.dtype = .native (.float p) := by
  refine yields_bind (yields_slot (by simp [parts]) hweight) fun m hm =>
    yields_bind (yields_slot (by simp [parts]) hweight) fun v hv =>
    yields_bind (yields_need _) fun _ _ => yields_bind yields_get fun o _ => ?_
  refine yields_bind (yields_ofExcept fun t ht => dtype_average hbeta₁ hm hgrad ht)
    fun m' _ => yields_bind (yields_overwrite _ hm) fun m hm => ?_
  refine yields_bind
    (yields_ofExcept fun t ht => dtype_average hbeta₂ hv (Tensor.dtype_square hgrad) ht)
    fun v' _ => yields_bind (yields_overwrite _ hv) fun v hv => ?_
  refine yields_bind (yields_ofExcept fun t ht => dtype_corrected hm ht) fun mean hmean =>
    yields_bind (yields_ofExcept fun t ht => dtype_corrected hv ht) fun variance hvariance =>
    yields_bind yields_get fun o' ho' => ?_
  refine yields_bind
    (yields_ofExcept fun t ht => Tensor.dtype_combineValue ho'.rate hmean ht)
    fun scaled hscaled => ?_
  refine yields_bind (yields_ofExcept fun t ht =>
    Tensor.dtype_combineValue hepsilon (Tensor.dtype_sqrt hvariance) ht) fun spread hspread => ?_
  refine yields_bind (yields_ofExcept fun t ht => Tensor.dtype_combine hscaled hspread ht)
    fun move hmove => ?_
  exact yields_ofExcept fun w hw => Tensor.dtype_combine hweight hmove hw

/-- An update of a float weight with a gradient of its type gives a weight of this type. -/
theorem yields_update :
    Yields (Suits id p) (update id weight grad) fun t => t.dtype = .native (.float p) := by
  refine yields_bind (yields_need _) fun _ _ => yields_bind yields_get fun o _ =>
    yields_bind (yields_ofExcept (Q := fun _ => True) fun _ _ => trivial) fun n _ =>
    yields_bind (yields_modify fun o ho => ⟨ho.plain, ho.state⟩) fun _ _ =>
    yields_bind (yields_need _) fun _ _ => yields_bind yields_get fun o ho => ?_
  refine yields_bind (yields_ofExcept fun g hg => dtype_preprocess ho hgrad hg) fun g hg =>
    yields_bind (yields_need _) fun _ _ => yields_bind yields_get fun o' ho' => ?_
  split
  · next momentum decay hrule =>
    have hsettings := ho'.sgd hrule
    exact yields_applySgd hweight hg hsettings.1 hsettings.2
  · next beta₁ beta₂ epsilon hrule =>
    have hsettings := ho'.adam hrule
    exact yields_applyAdam hweight hg hsettings.1 hsettings.2.1 hsettings.2.2

end Rules

end Parts

end Optimizer

end DataParallel

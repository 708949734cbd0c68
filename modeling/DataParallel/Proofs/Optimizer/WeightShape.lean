import DataParallel.Proofs.Optimizer.Isolation
import DataParallel.Proofs.Step.Keeps
import DataParallel.Proofs.Tensor.Broadcast

/-!
# Updates keep the shape of the weight

The rules calculate with stretched shapes, so a gradient may be of another shape than its weight.
A rule that carries state arrays overwrites them, and these have the shape of the weight: a
gradient that does not fit is refused, and the new weight has the shape of the old one.  Gradient
descent without momentum overwrites nothing, and a weight keeps its shape only under gradients
that can be stretched to it.
-/

namespace DataParallel

/-- The rule moves the weight by a state array, not by the gradient itself. -/
def Rule.carries : Rule → Bool
  | sgd momentum _ => !momentum.same (.int 0)
  | adam .. => true

namespace Optimizer

open Step

/-- The optimizer has this rule and no list among its settings, and the state arrays of the
parameter have this shape. -/
structure Shaped (id : String) (rule : Rule) (s : Shape) (o : Optimizer) : Prop where
  rule : o.rule = rule
  plain : ∀ h ∈ o.hyperparameters, h.2.isSequence = false
  state : ∀ part ∈ parts, ∀ t, o.state.lookup (key id part) = some t → t.shape = s

section Parts

variable {id : String} {rule : Rule} {s : Shape}

theorem Shaped.rate {o : Optimizer} (h : Shaped id rule s o) : o.rate.isSequence = false :=
  h.plain ("learning_rate", o.rate) (by simp [hyperparameters])

theorem Shaped.rescale {o : Optimizer} (h : Shaped id rule s o) : o.rescale.isSequence = false :=
  h.plain ("rescale_grad", o.rescale) (by simp [hyperparameters])

theorem Shaped.decay {o : Optimizer} {momentum decay : Value}
    (h : Shaped id (.sgd momentum decay) s o) : decay.isSequence = false :=
  h.plain ("weight_decay", decay) (by simp [hyperparameters, h.rule])

theorem Shaped.epsilon {o : Optimizer} {beta₁ beta₂ epsilon : Value}
    (h : Shaped id (.adam beta₁ beta₂ epsilon) s o) : epsilon.isSequence = false :=
  h.plain ("epsilon", epsilon) (by simp [hyperparameters, h.rule])

theorem shape_preprocess {o : Optimizer} (h : Shaped id rule s o) {grad g : Tensor}
    (hg : preprocess o grad = .ok g) : g.shape = grad.shape := by
  obtain ⟨scaled, hscaled, hg⟩ := exists_of_bind_eq_ok hg
  have hshape := Tensor.shape_combineValue h.rescale hscaled
  split at hg
  · rw [← Except.ok.inj hg]
    exact hshape
  · obtain ⟨limit, -, hg⟩ := exists_of_bind_eq_ok hg
    rw [Tensor.shape_clip hg]
    exact hshape

theorem shape_descend {rate : Value} (hrate : rate.isSequence = false)
    {weight direction w : Tensor} (hdirection : direction.shape.Within weight.shape)
    (hw : descend weight rate direction = .ok w) : w.shape = weight.shape := by
  obtain ⟨move, hmove, hw⟩ := exists_of_bind_eq_ok hw
  apply Tensor.shape_combine_left _ hw
  rw [Tensor.shape_combineSingle hrate hmove]
  exact hdirection

theorem within_decayed {decay : Value} (hdecay : decay.isSequence = false)
    {weight grad g : Tensor} (hgrad : grad.shape.Within weight.shape)
    (hg : decayed decay weight grad = .ok g) : g.shape.Within weight.shape := by
  rw [decayed] at hg
  split at hg
  · rw [← Except.ok.inj hg]
    exact hgrad
  · obtain ⟨part, hpart, hg⟩ := exists_of_bind_eq_ok hg
    apply Tensor.shape_combine_within hgrad _ hg
    rw [Tensor.shape_combineValue hdecay hpart]
    exact .refl weight.shape

theorem shape_corrected {beta n : Value} {moment t : Tensor}
    (ht : corrected beta n moment = .ok t) : t.shape = moment.shape := by
  obtain ⟨base, -, ht⟩ := exists_of_bind_eq_ok ht
  obtain ⟨exponent, -, ht⟩ := exists_of_bind_eq_ok ht
  obtain ⟨power, -, ht⟩ := exists_of_bind_eq_ok ht
  exact Tensor.shape_combineScalar ht

/-! ## State arrays -/

theorem keeps_need (name : String) : Keeps (Shaped id rule s) (need name) fun _ => True :=
  keeps_get_bind fun _ _ => keeps_ofExcept fun _ _ => trivial

theorem Shaped.put {o : Optimizer} (h : Shaped id rule s o) {part : String} {t : Tensor}
    (ht : t.shape = s) :
    Shaped id rule s { o with state := Keyed.put (key id part) t o.state } := by
  refine ⟨h.rule, h.plain, fun part' hpart' u hu => ?_⟩
  dsimp only at hu
  rw [Keyed.lookup_put] at hu
  split at hu
  · rw [← Option.some.inj hu]
    exact ht
  · exact h.state part' hpart' u hu

theorem keeps_slot {part : String} (hpart : part ∈ parts) {weight : Tensor}
    (hweight : weight.shape = s) :
    Keeps (Shaped id rule s) (slot id part weight) fun t => t.shape = s := by
  refine keeps_bind (keeps_need _) fun _ _ => keeps_get_bind fun o ho => ?_
  rcases hlookup : o.state.lookup (key id part) with _ | t
  · have hput : ∀ o : Optimizer, Shaped id rule s o → Shaped id rule s { o with
        state := Keyed.put (key id part) (Tensor.zeros weight.dtype weight.shape) o.state } :=
      fun o ho => ho.put hweight
    exact keeps_bind (keeps_modify hput) fun _ _ => keeps_pure hweight
  · exact keeps_pure (ho.state part hpart t hlookup)

theorem keeps_overwrite (part : String) {old value : Tensor} (hold : old.shape = s) :
    Keeps (Shaped id rule s) (overwrite id part old value) fun t => t.shape = s := by
  have hassigned : ∀ t, old.assign value = .ok t → t.shape = s :=
    fun t ht => (Tensor.shape_assign ht).trans hold
  refine keeps_bind (keeps_ofExcept hassigned) fun t ht => ?_
  exact keeps_bind (keeps_modify fun o ho => ho.put ht) fun _ _ => keeps_pure ht

/-! ## The rules -/

section Rules

variable {weight grad : Tensor} (hweight : weight.shape = s)

include hweight

theorem keeps_applySgd {momentum decay : Value}
    (hfits : (Rule.sgd momentum decay).carries = true ∨ grad.shape.Within s) :
    Keeps (Shaped id (.sgd momentum decay) s) (applySgd momentum decay id weight grad)
      fun t => t.shape = s := by
  subst hweight
  have hdecayed : Keeps (Shaped id (.sgd momentum decay) weight.shape)
      (Step.ofExcept (decayed decay weight grad))
      fun g => (Rule.sgd momentum decay).carries = true ∨ g.shape.Within weight.shape := by
    intro o ho
    refine ⟨ho, fun g hg => ?_⟩
    apply hfits.imp_right
    exact fun hgrad => within_decayed ho.decay hgrad hg
  refine keeps_bind hdecayed fun g hg => keeps_get_bind fun o ho => ?_
  dsimp only
  split
  · next hmomentum =>
    have hwithin : g.shape.Within weight.shape := by
      apply hg.resolve_left
      rw [Rule.carries, hmomentum]
      exact Bool.false_ne_true
    exact keeps_ofExcept fun w hw => shape_descend ho.rate hwithin hw
  · refine keeps_bind (keeps_slot (by simp [parts]) rfl) fun velocity hvelocity => ?_
    refine keeps_bind (keeps_ofExcept fun _ _ => trivial) fun carried _ =>
      keeps_bind (keeps_ofExcept fun _ _ => trivial) fun sum _ => ?_
    refine keeps_bind (keeps_overwrite _ hvelocity) fun velocity hvelocity => ?_
    have hwithin : velocity.shape.Within weight.shape := by
      rw [hvelocity]
      exact .refl weight.shape
    exact keeps_ofExcept fun w hw => shape_descend ho.rate hwithin hw

theorem keeps_applyAdam (beta₁ beta₂ epsilon : Value) :
    Keeps (Shaped id (.adam beta₁ beta₂ epsilon) s) (applyAdam beta₁ beta₂ epsilon id weight grad)
      fun t => t.shape = s := by
  subst hweight
  refine keeps_bind (keeps_slot (by simp [parts]) rfl) fun m hm =>
    keeps_bind (keeps_slot (by simp [parts]) rfl) fun v hv =>
    keeps_bind (keeps_need _) fun _ _ => keeps_get_bind fun o _ => ?_
  refine keeps_bind (keeps_ofExcept fun _ _ => trivial) fun m' _ =>
    keeps_bind (keeps_overwrite _ hm) fun m hm => ?_
  refine keeps_bind (keeps_ofExcept fun _ _ => trivial) fun v' _ =>
    keeps_bind (keeps_overwrite _ hv) fun v hv => ?_
  refine keeps_bind (keeps_ofExcept fun t ht => (shape_corrected ht).trans hm) fun mean hmean =>
    keeps_bind (keeps_ofExcept fun t ht => (shape_corrected ht).trans hv) fun variance hvariance =>
    keeps_get_bind fun o ho => ?_
  refine keeps_bind
    (keeps_ofExcept fun t ht => (Tensor.shape_combineValue ho.rate ht).trans hmean)
    fun scaled hscaled => ?_
  refine keeps_bind
    (keeps_ofExcept fun t ht => (Tensor.shape_combineValue ho.epsilon ht).trans hvariance)
    fun spread hspread => ?_
  have hquotient : spread.shape.Within scaled.shape := by
    rw [hspread, hscaled]
    exact .refl weight.shape
  refine keeps_bind
    (keeps_ofExcept fun t ht => (Tensor.shape_combine_left hquotient ht).trans hscaled)
    fun move hmove => ?_
  have hwithin : move.shape.Within weight.shape := by
    rw [hmove]
    exact .refl weight.shape
  exact keeps_ofExcept fun w hw => Tensor.shape_combine_left hwithin hw

/-- An update of a weight, also one that fails, leaves the state arrays in the shape of the
weight, and so is its result. -/
theorem keeps_update (hfits : rule.carries = true ∨ grad.shape.Within s) :
    Keeps (Shaped id rule s) (update id weight grad) fun t => t.shape = s := by
  have hcount : ∀ n, ∀ o : Optimizer, Shaped id rule s o →
      Shaped id rule s { o with counts := Keyed.put id n o.counts } :=
    fun _ _ ho => ⟨ho.rule, ho.plain, ho.state⟩
  refine keeps_bind (keeps_need _) fun _ _ => keeps_get_bind fun o _ =>
    keeps_bind (keeps_ofExcept fun _ _ => trivial) fun n _ =>
    keeps_bind (keeps_modify (hcount n)) fun _ _ =>
    keeps_bind (keeps_need _) fun _ _ => keeps_get_bind fun o ho => ?_
  refine keeps_bind (keeps_ofExcept fun g hg => shape_preprocess ho hg) fun g hg =>
    keeps_bind (keeps_need _) fun _ _ => keeps_get_bind fun o' ho' => ?_
  rw [← hg] at hfits
  split
  · next momentum decay hrule =>
    obtain rfl : rule = .sgd momentum decay := ho'.rule.symm.trans hrule
    exact keeps_applySgd hweight hfits
  · next beta₁ beta₂ epsilon hrule =>
    obtain rfl : rule = .adam beta₁ beta₂ epsilon := ho'.rule.symm.trans hrule
    exact keeps_applyAdam hweight beta₁ beta₂ epsilon

end Rules

end Parts

end Optimizer

end DataParallel

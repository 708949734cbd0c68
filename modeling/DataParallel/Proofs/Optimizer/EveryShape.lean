import DataParallel.Proofs.Number.Whole
import DataParallel.Proofs.Optimizer.Interleaving
import DataParallel.Proofs.Optimizer.Restoring
import DataParallel.Proofs.Optimizer.WeightShape
import DataParallel.Proofs.Step.Succeeds
import DataParallel.Proofs.Tensor.FloatArithmetic

/-!
# Updates of every shape

An optimizer whose settings are floats updates float weights of every shape that has dimensions: no
update fails, and weights and state arrays keep the shape and the type.  A number alone is a shape
without dimensions.  It is updated too as long as the rule keeps no state arrays, but there are no
elements in it to write over, so a rule that keeps them fails on it whenever it is asked.
-/

namespace DataParallel

/-! ## Powers -/

/-- A plain float that weighs an average: from zero to one, one excluded. -/
def Value.IsWeight (v : Value) : Prop := ∃ x : Float, v = .float x ∧ 0 ≤ x ∧ x < 1

theorem Value.IsWeight.isFloat {v : Value} (h : v.IsWeight) : v.IsFloat := by
  obtain ⟨x, rfl, -, -⟩ := h
  exact ⟨x, rfl⟩

namespace Scalar

open Number

theorem mayGrow_eq_false {x t : Float} (hx : 0 ≤ x) (hone : x < 1) (ht : ¬ t < 0) :
    mayGrow x t = false := by
  have hbelow : ¬ x < -1 := fun h => not_lt_of_le hx (lt_zero_of_lt h)
  simp [mayGrow, ht, not_lt_of_lt hone, hbelow]

/-- A number from zero to one has all powers that are not negative. -/
theorem exists_floatPower {x t : Float} (hx : 0 ≤ x) (hone : x < 1) (ht : ¬ t < 0) :
    ∃ y, floatPower x t = .ok y := by
  rw [floatPower]
  split
  · exact ⟨_, rfl⟩
  · rw [if_neg (by simp [ht]), if_neg (by simp [not_lt_of_le hx]), mayGrow_eq_false hx hone ht]
    exact ⟨_, rfl⟩

/-- The exponent is a count, as long as this is a float. -/
theorem exists_power {x : Float} (hx : 0 ≤ x) (hone : x < 1) {k : Nat} (hk : k < 2 ^ 1023) :
    ∃ y, (Scalar.float x).power (.int k) = .ok (.float y) := by
  obtain ⟨t, ht, hpositive⟩ := exists_floatOfInt? hk
  obtain ⟨y, hy⟩ := exists_floatPower hx hone hpositive
  have hexponent : (Scalar.int k).toFloat = .ok t := by
    rw [toFloat, ht]
    rfl
  refine ⟨y, ?_⟩
  show power.inFloats (.float x) (.int k) = _
  rw [power.inFloats, hexponent]
  show floatPower x t >>= _ = _
  rw [hy]
  rfl

end Scalar

/-! ## Settings that are floats -/

/-- The settings of the rule are floats, and Adam takes weighted averages. -/
def Rule.InFloats : Rule → Prop
  | sgd momentum decay => momentum.IsFloat ∧ decay.IsFloat
  | adam beta₁ beta₂ epsilon => beta₁.IsWeight ∧ beta₂.IsWeight ∧ epsilon.IsFloat

namespace Optimizer

open Step

/-- All settings are floats; there need be no limit for gradients. -/
structure InFloats (o : Optimizer) : Prop where
  rule : o.rule.InFloats
  rate : o.rate.IsFloat
  rescale : o.rescale.IsFloat
  clip : o.clip = .null ∨ o.clip.IsFloat

/-! ## Calculations -/

section Calculations

variable {p : Precision} {s : Shape} {weight grad : Tensor} (hweight : weight.Floats p s)
  (hgrad : grad.Floats p s)

include hgrad in
theorem exists_preprocess {o : Optimizer} (ho : o.InFloats) :
    ∃ g, preprocess o grad = .ok g ∧ g.NativeFloats p s := by
  obtain ⟨scaled, hscaled, hfloats⟩ :=
    Tensor.exists_combineValue .multiply hgrad ho.rescale.isNumber
  rw [preprocess, hscaled, ok_bind]
  rcases ho.clip with hclip | ⟨limit, hclip⟩
  · rw [hclip]
    exact ⟨scaled, rfl, hfloats⟩
  · rw [hclip]
    exact Tensor.exists_clip hfloats.floats limit

include hweight hgrad

theorem exists_decayed {decay : Value} (hdecay : decay.IsFloat) :
    ∃ g, decayed decay weight grad = .ok g ∧ g.Floats p s := by
  rw [decayed]
  split
  · exact ⟨grad, rfl, hgrad⟩
  · obtain ⟨part, hpart, hfloats⟩ := Tensor.exists_combineValue .multiply hweight hdecay.isNumber
    obtain ⟨g, hg, hsum⟩ := Tensor.exists_combine .add hgrad hfloats.floats
    rw [hpart, ok_bind]
    exact ⟨g, hg, hsum.floats⟩

theorem exists_descend {rate : Value} (hrate : rate.IsFloat) :
    ∃ w, descend weight rate grad = .ok w ∧ w.NativeFloats p s := by
  obtain ⟨move, hmove, hfloats⟩ := Tensor.exists_combineSingle .multiply hgrad hrate.isNumber
  rw [descend, hmove, ok_bind]
  exact Tensor.exists_combine .subtract hweight hfloats.floats

theorem exists_average {beta : Value} (hbeta : beta.IsFloat) :
    ∃ t, average beta weight grad = .ok t ∧ t.NativeFloats p s := by
  obtain ⟨kept, hkept, hold⟩ := Tensor.exists_combineValue .multiply hweight hbeta.isNumber
  obtain ⟨x, rfl⟩ := hbeta
  obtain ⟨added, hadded, hnew⟩ := Tensor.exists_combineScalar .multiply hgrad
    (x := (Scalar.float x).complement) rfl
  have hnumber : number (.float x) = .ok (.float x) := rfl
  rw [average, hkept, ok_bind, hnumber, ok_bind, hadded, ok_bind]
  exact Tensor.exists_combine .add hold.floats hnew.floats

omit hweight in
theorem exists_corrected {beta : Value} (hbeta : beta.IsWeight) {k : Nat} (hk : k < 2 ^ 1023) :
    ∃ t, corrected beta (.int k) grad = .ok t ∧ t.NativeFloats p s := by
  obtain ⟨x, rfl, hx, hone⟩ := hbeta
  obtain ⟨y, hy⟩ := Scalar.exists_power hx hone hk
  have hbase : number (.float x) = .ok (.float x) := rfl
  have hexponent : number (.int k) = .ok (.int k) := rfl
  rw [corrected, hbase, ok_bind, hexponent, ok_bind, hy, ok_bind]
  exact Tensor.exists_combineScalar .divide hgrad (x := (Scalar.float y).complement) rfl

end Calculations

/-! ## State arrays -/

/-- The optimizer has this rule and settings that are floats, has counted so many updates of the
parameter, and keeps arrays of this type and shape only. -/
structure Ready (id : String) (rule : Rule) (d : Dtype) (s : Shape) (k : Nat) (o : Optimizer) :
    Prop where
  settings : o.InFloats
  rule : o.rule = rule
  taken : o.taken = []
  count : o.count id = .int k
  arrays : ∀ entry ∈ o.state, entry.2.dtype = d ∧ entry.2.shape = s

section Steps

variable {id : String} {rule : Rule} {d : Dtype} {p : Precision} {s : Shape} {k : Nat}

theorem Ready.withArray {o : Optimizer} (h : Ready id rule d s k o) {name : String} {t : Tensor}
    (ht : t.dtype = d ∧ t.shape = s) :
    Ready id rule d s k { o with state := Keyed.put name t o.state } := by
  refine ⟨⟨h.settings.rule, h.settings.rate, h.settings.rescale, h.settings.clip⟩, h.rule, h.taken,
    h.count, fun entry hentry => ?_⟩
  rcases Keyed.mem_put hentry with rfl | hold
  · exact ht
  · exact h.arrays entry hold

theorem succeeds_need (name : String) : Succeeds (Ready id rule d s k) (need name) fun _ => True :=
  succeeds_get_bind fun o ho => succeeds_ofExcept ⟨(), by rw [available, ho.taken]; rfl, trivial⟩

theorem succeeds_slot (part : String) {weight : Tensor}
    (hweight : weight.dtype = d ∧ weight.shape = s) :
    Succeeds (Ready id rule d s k) (slot id part weight) fun t => t.dtype = d ∧ t.shape = s := by
  refine succeeds_bind (succeeds_need _) fun _ _ => succeeds_get_bind fun o ho => ?_
  rcases hlookup : o.state.lookup (key id part) with _ | t
  · have hput : ∀ o, Ready id rule d s k o → Ready id rule d s k { o with
        state := Keyed.put (key id part) (Tensor.zeros weight.dtype weight.shape) o.state } :=
      fun o ho => ho.withArray hweight
    exact succeeds_bind (succeeds_modify hput) fun _ _ => succeeds_pure hweight
  · exact succeeds_pure (ho.arrays (key id part, t) (Keyed.mem_of_lookup hlookup))

theorem succeeds_overwrite (hs : s ≠ []) (part : String) {old value : Tensor}
    (hold : old.dtype = d ∧ old.shape = s) (hvalue : value.shape = s) :
    Succeeds (Ready id rule d s k) (overwrite id part old value)
      fun t => t.dtype = d ∧ t.shape = s := by
  obtain ⟨t, ht, hdtype, hshape⟩ := Tensor.exists_assign hold.2 hvalue hs
  have hassigned : ∃ t, old.assign value = .ok t ∧ t.dtype = d ∧ t.shape = s :=
    ⟨t, ht, hdtype.trans hold.1, hshape⟩
  refine succeeds_bind (succeeds_ofExcept hassigned) fun t ht => ?_
  exact succeeds_bind (succeeds_modify fun o ho => ho.withArray ht) fun _ _ => succeeds_pure ht

theorem fails_overwrite (hs : s = []) (part : String) {old : Tensor} (hold : old.shape = s)
    (value : Tensor) :
    Fails (Ready id rule d s k) (overwrite id part old value) .outOfRange :=
  fails_bind_left (fails_ofExcept (Tensor.assign_of_shape_eq_nil (hold.trans hs) value))

/-! ## The rules -/

section Rules

variable {weight grad : Tensor} (hd : d.element = .float p)
  (hweight : weight.dtype = d ∧ weight.shape = s) (hgrad : grad.Floats p s)

/-- What has the type and the shape of the parameter can be calculated with. -/
theorem floats_of (hd : d.element = .float p) {t : Tensor} (ht : t.dtype = d ∧ t.shape = s) :
    t.Floats p s :=
  ⟨by rw [ht.1, hd], ht.2⟩

include hd hweight hgrad

theorem succeeds_applySgd {momentum decay : Value} (hrule : (Rule.sgd momentum decay).InFloats)
    (hs : s ≠ [] ∨ (Rule.sgd momentum decay).carries = false) :
    Succeeds (Ready id rule d s k) (applySgd momentum decay id weight grad)
      (Tensor.NativeFloats p s) := by
  have hfloats := floats_of hd hweight
  refine succeeds_bind (succeeds_ofExcept (exists_decayed hfloats hgrad hrule.2)) fun g hg =>
    succeeds_get_bind fun o ho => ?_
  dsimp only
  split
  · exact succeeds_ofExcept (exists_descend hfloats hg ho.settings.rate)
  · next hmomentum =>
    have hs : s ≠ [] := by
      apply hs.resolve_right
      simpa [Rule.carries] using hmomentum
    refine succeeds_bind (succeeds_slot _ hweight) fun velocity hvelocity => ?_
    have hold := floats_of hd hvelocity
    refine succeeds_bind
      (succeeds_ofExcept (Tensor.exists_combineValue .multiply hold hrule.1.isNumber))
      fun carried hcarried => ?_
    refine succeeds_bind (succeeds_ofExcept (Tensor.exists_combine .add hcarried.floats hg))
      fun sum hsum => ?_
    refine succeeds_bind (succeeds_overwrite hs _ hvelocity hsum.shape) fun velocity hvelocity => ?_
    exact succeeds_ofExcept (exists_descend hfloats (floats_of hd hvelocity) ho.settings.rate)

theorem fails_applySgd {momentum decay : Value} (hrule : (Rule.sgd momentum decay).InFloats)
    (hs : s = []) (hcarries : (Rule.sgd momentum decay).carries = true) :
    Fails (Ready id rule d s k) (applySgd momentum decay id weight grad) .outOfRange := by
  have hmomentum : momentum.same (.int 0) = false := by simpa [Rule.carries] using hcarries
  refine fails_bind (succeeds_ofExcept (exists_decayed (floats_of hd hweight) hgrad hrule.2))
    fun g hg => fails_get_bind fun o ho => ?_
  dsimp only
  rw [if_neg (by simp [hmomentum])]
  refine fails_bind (succeeds_slot _ hweight) fun velocity hvelocity => ?_
  have hold := floats_of hd hvelocity
  refine fails_bind (succeeds_ofExcept (Tensor.exists_combineValue .multiply hold hrule.1.isNumber))
    fun carried hcarried => ?_
  refine fails_bind (succeeds_ofExcept (Tensor.exists_combine .add hcarried.floats hg))
    fun sum _ => ?_
  exact fails_bind_left (fails_overwrite hs _ hvelocity.2 sum)

theorem succeeds_applyAdam {beta₁ beta₂ epsilon : Value}
    (hrule : (Rule.adam beta₁ beta₂ epsilon).InFloats) (hs : s ≠ []) (hk : k < 2 ^ 1023) :
    Succeeds (Ready id rule d s k) (applyAdam beta₁ beta₂ epsilon id weight grad)
      (Tensor.NativeFloats p s) := by
  obtain ⟨hbeta₁, hbeta₂, hepsilon⟩ := hrule
  refine succeeds_bind (succeeds_slot _ hweight) fun m hm =>
    succeeds_bind (succeeds_slot _ hweight) fun v hv =>
    succeeds_bind (succeeds_need _) fun _ _ => succeeds_get_bind fun o ho => ?_
  dsimp only
  rw [ho.count]
  refine succeeds_bind (succeeds_ofExcept
    (exists_average (floats_of hd hm) hgrad hbeta₁.isFloat)) fun m' hm' =>
    succeeds_bind (succeeds_overwrite hs _ hm hm'.shape) fun m hm => ?_
  refine succeeds_bind (succeeds_ofExcept (exists_average (floats_of hd hv)
    (Tensor.nativeFloats_square hgrad).floats hbeta₂.isFloat)) fun v' hv' =>
    succeeds_bind (succeeds_overwrite hs _ hv hv'.shape) fun v hv => ?_
  refine succeeds_bind (succeeds_ofExcept (exists_corrected (floats_of hd hm) hbeta₁ hk))
    fun mean hmean =>
    succeeds_bind (succeeds_ofExcept (exists_corrected (floats_of hd hv) hbeta₂ hk))
    fun variance hvariance => succeeds_get_bind fun o ho => ?_
  refine succeeds_bind
    (succeeds_ofExcept
      (Tensor.exists_combineValue .multiply hmean.floats ho.settings.rate.isNumber))
    fun scaled hscaled => ?_
  have hroot := (Tensor.nativeFloats_sqrt hvariance.floats).floats
  refine succeeds_bind
    (succeeds_ofExcept (Tensor.exists_combineValue .add hroot hepsilon.isNumber))
    fun spread hspread => ?_
  refine succeeds_bind
    (succeeds_ofExcept (Tensor.exists_combine .divide hscaled.floats hspread.floats))
    fun move hmove => ?_
  exact succeeds_ofExcept (Tensor.exists_combine .subtract (floats_of hd hweight) hmove.floats)

theorem fails_applyAdam {beta₁ beta₂ epsilon : Value}
    (hrule : (Rule.adam beta₁ beta₂ epsilon).InFloats) (hs : s = []) :
    Fails (Ready id rule d s k) (applyAdam beta₁ beta₂ epsilon id weight grad) .outOfRange := by
  refine fails_bind (succeeds_slot _ hweight) fun m hm =>
    fails_bind (succeeds_slot _ hweight) fun v hv =>
    fails_bind (succeeds_need _) fun _ _ => fails_get_bind fun o ho => ?_
  refine fails_bind (succeeds_ofExcept
    (exists_average (floats_of hd hm) hgrad hrule.1.isFloat)) fun m' _ => ?_
  exact fails_bind_left (fails_overwrite hs _ hm.2 m')

end Rules

/-! ## Updates -/

section Updates

variable {o : Optimizer} {weight grad : Tensor}

/-- What an update does after it was counted. -/
def afterCounting (id : String) (weight grad : Tensor) : Step Optimizer Tensor := do
  need "_preprocess"
  let grad ← Step.ofExcept (preprocess (← get) grad)
  need "_apply"
  apply id weight grad

theorem Ready.runFrom_update (h : Ready id rule d s k o) (weight grad : Tensor) :
    ∃ o', Ready id rule d s (k + 1) o' ∧
      (update id weight grad).runFrom o = (afterCounting id weight grad).runFrom o' := by
  have hneed : (need "update").runFrom o = (.ok (), o) := by
    rw [need, runFrom_bind_of_ok (runFrom_get o), available, h.taken]
    rfl
  have hcounted : (Step.ofExcept (counted (o.count id)) : Step Optimizer Value).runFrom o =
      (.ok (.int (k + 1 : Nat)), o) := by
    rw [h.count]
    rfl
  refine ⟨{ o with counts := Keyed.put id (.int (k + 1 : Nat)) o.counts }, ?_, ?_⟩
  · refine ⟨⟨h.settings.rule, h.settings.rate, h.settings.rescale, h.settings.clip⟩, h.rule,
      h.taken, ?_, h.arrays⟩
    rw [Optimizer.count, Keyed.lookup_put, if_pos rfl, Option.getD_some]
  · rw [update, runFrom_bind_of_ok hneed, runFrom_bind_of_ok (runFrom_get o),
      runFrom_bind_of_ok hcounted, runFrom_bind_of_ok (runFrom_modify _ o), afterCounting]

variable (hd : d.element = .float p) (hweight : weight.dtype = d ∧ weight.shape = s)
  (hgrad : grad.Floats p s)

include hd hweight hgrad

theorem succeeds_afterCounting (hs : s ≠ [] ∨ rule.carries = false)
    (hk : ∀ beta₁ beta₂ epsilon, rule = .adam beta₁ beta₂ epsilon → k < 2 ^ 1023) :
    Succeeds (Ready id rule d s k) (afterCounting id weight grad) (Tensor.NativeFloats p s) := by
  refine succeeds_bind (succeeds_need _) fun _ _ => succeeds_get_bind fun o ho =>
    succeeds_bind (succeeds_ofExcept (exists_preprocess hgrad ho.settings)) fun g hg =>
    succeeds_bind (succeeds_need _) fun _ _ => succeeds_get_bind fun o ho => ?_
  have hrule : rule.InFloats := ho.rule ▸ ho.settings.rule
  rw [ho.rule]
  rcases rule with ⟨momentum, decay⟩ | ⟨beta₁, beta₂, epsilon⟩
  · exact succeeds_applySgd hd hweight hg.floats hrule hs
  · exact succeeds_applyAdam hd hweight hg.floats hrule (hs.resolve_right nofun)
      (hk beta₁ beta₂ epsilon rfl)

theorem fails_afterCounting (hs : s = []) (hcarries : rule.carries = true) :
    Fails (Ready id rule d s k) (afterCounting id weight grad) .outOfRange := by
  refine fails_bind (succeeds_need _) fun _ _ => fails_get_bind fun o ho =>
    fails_bind (succeeds_ofExcept (exists_preprocess hgrad ho.settings)) fun g hg =>
    fails_bind (succeeds_need _) fun _ _ => fails_get_bind fun o ho => ?_
  have hrule : rule.InFloats := ho.rule ▸ ho.settings.rule
  rw [ho.rule]
  rcases rule with ⟨momentum, decay⟩ | ⟨beta₁, beta₂, epsilon⟩
  · exact fails_applySgd hd hweight hg.floats hrule hs hcarries
  · exact fails_applyAdam hd hweight hg.floats hrule hs

end Updates

end Steps

/-! ## Sequences of updates -/

/-- An update of this parameter, with a weight and a gradient of this type and shape. -/
structure Update.Of (id : String) (d : Dtype) (s : Shape) (u : Update) : Prop where
  id : u.id = id
  weight : u.weight.dtype = d ∧ u.weight.shape = s
  grad : u.grad.dtype = d ∧ u.grad.shape = s

/-- An optimizer that was just made is ready for every parameter, type and shape. -/
theorem ready_ofName {name : String} {settings : List (String × Value)} {o : Optimizer}
    (hmade : ofName name settings = .ok o) (ho : o.InFloats) (id : String) (d : Dtype)
    (s : Shape) : Ready id o.rule d s 0 o := by
  obtain ⟨hcounts, hstate⟩ := unused_ofName hmade
  refine ⟨ho, rfl, (sane_ofName hmade).taken, ?_, ?_⟩
  · rw [count, hcounts]
    rfl
  · rw [hstate]
    exact List.forall_mem_nil _

section StepsOfSequences

variable {id : String} {rule : Rule} {d : Dtype} {p : Precision} {s : Shape} {k : Nat}
  {o : Optimizer} {u : Update} (hd : d.element = .float p) (h : Ready id rule d s k o)
  (hu : u.Of id d s)

include hd h hu

theorem Ready.step_ok (hs : s ≠ [] ∨ rule.carries = false)
    (hk : ∀ beta₁ beta₂ epsilon, rule = .adam beta₁ beta₂ epsilon → k + 1 < 2 ^ 1023) :
    (∃ w, (u.step.runFrom o).1 = .ok w ∧ w.NativeFloats p s) ∧
      Ready id rule d s (k + 1) (u.after o) := by
  obtain ⟨rfl, hweight, hgrad⟩ := hu
  obtain ⟨o', ho', hcounted⟩ := h.runFrom_update u.weight u.grad
  obtain ⟨w, o'', hrun, ho'', hw⟩ :=
    succeeds_afterCounting hd hweight (floats_of hd hgrad) hs hk o' ho'
  rw [Update.after, Update.step, hcounted, hrun]
  exact ⟨⟨w, rfl, hw⟩, ho''⟩

theorem Ready.step_error (hs : s = []) (hcarries : rule.carries = true) :
    (u.step.runFrom o).1 = .error .outOfRange ∧ Ready id rule d s (k + 1) (u.after o) := by
  obtain ⟨rfl, hweight, hgrad⟩ := hu
  obtain ⟨o', ho', hcounted⟩ := h.runFrom_update u.weight u.grad
  obtain ⟨o'', hrun, ho''⟩ :=
    fails_afterCounting hd hweight (floats_of hd hgrad) hs hcarries o' ho'
  rw [Update.after, Update.step, hcounted, hrun]
  exact ⟨rfl, ho''⟩

end StepsOfSequences

/-- What comes out of each update as long as the count is below `n` comes out of all of the first
`n` updates. -/
theorem Ready.outcomes {id : String} {rule : Rule} {d : Dtype} {s : Shape} {n : Nat}
    {Q : Except Fault Tensor → Prop}
    (hstep : ∀ k < n, ∀ o u, Ready id rule d s k o → Update.Of id d s u →
      Q (u.step.runFrom o).1 ∧ Ready id rule d s (k + 1) (u.after o))
    {updates : List Update} (hupdates : ∀ u ∈ updates, u.Of id d s) {k : Nat} {o : Optimizer}
    (h : Ready id rule d s k o) (hn : k + updates.length ≤ n) :
    (∀ outcome ∈ o.outcomes updates, Q outcome.2) ∧
      Ready id rule d s (k + updates.length) (o.afterUpdates updates) := by
  induction updates generalizing o k with
  | nil => exact ⟨nofun, h⟩
  | cons u rest ih =>
    rw [List.length_cons] at hn
    obtain ⟨hfirst, hnext⟩ := hstep k (by omega) o u h (hupdates u List.mem_cons_self)
    obtain ⟨hrest, hready⟩ := ih (fun u hu => hupdates u (List.mem_cons_of_mem _ hu)) hnext
      (by omega)
    constructor
    · intro outcome houtcome
      rcases List.mem_cons.mp houtcome with rfl | hlater
      · exact hfirst
      · exact hrest outcome hlater
    · rw [List.length_cons, Nat.add_comm rest.length, ← Nat.add_assoc]
      exact hready

/-- Let the settings of an optimizer be floats, and let it update one parameter with weights and
gradients of one float type and shape.  If there are dimensions, or no state arrays, every update
gives a weight of this shape and element type.  If there are none, and state arrays are kept, every
update fails, because there is no range of elements to write over.  In both cases the state arrays
are of the type and the shape.  The float types are those of half, single and double precision:
nothing is calculated with long floats here. -/
theorem updates_of_every_shape {name : String} {settings : List (String × Value)} {o : Optimizer}
    (hmade : ofName name settings = .ok o) (ho : o.InFloats) {id : String} {d : Dtype}
    {p : Precision} (hd : d.element = .float p) {s : Shape} {updates : List Update}
    (hupdates : ∀ u ∈ updates, u.Of id d s)
    (hcount : o.name = "adam" → updates.length < 2 ^ 1023) :
    (s ≠ [] ∨ o.rule.carries = false → ∀ outcome ∈ o.outcomes updates,
        ∃ w, outcome.2 = .ok w ∧ w.dtype = .native d.element ∧ w.shape = s) ∧
      (s = [] ∧ o.rule.carries = true → ∀ outcome ∈ o.outcomes updates,
        outcome.2 = .error .outOfRange) ∧
      ∀ entry ∈ (o.afterUpdates updates).state, entry.2.dtype = d ∧ entry.2.shape = s := by
  have hready : Ready id o.rule d s 0 o := ready_ofName hmade ho id d s
  have hwhole : 0 + updates.length ≤ updates.length := Nat.le_of_eq (Nat.zero_add _)
  have hfew : ∀ k < updates.length, ∀ beta₁ beta₂ epsilon, o.rule = .adam beta₁ beta₂ epsilon →
      k + 1 < 2 ^ 1023 := by
    intro k hk beta₁ beta₂ epsilon hrule
    exact Nat.lt_of_le_of_lt hk (hcount (by rw [Optimizer.name, hrule]))
  have hok (hs : s ≠ [] ∨ o.rule.carries = false) := Ready.outcomes
    (Q := fun result => ∃ w, result = .ok w ∧ w.NativeFloats p s)
    (fun k hk _ _ ho' hu => ho'.step_ok hd hu hs (hfew k hk)) hupdates hready hwhole
  have herror (hs : s = [] ∧ o.rule.carries = true) := Ready.outcomes
    (Q := (· = .error .outOfRange))
    (fun _ _ _ _ ho' hu => ho'.step_error hd hu hs.1 hs.2) hupdates hready hwhole
  refine ⟨fun hs outcome houtcome => ?_, fun hs => (herror hs).1, ?_⟩
  · obtain ⟨w, hw, hfloats⟩ := (hok hs).1 outcome houtcome
    exact ⟨w, hw, by rw [hfloats.dtype, hd], hfloats.shape⟩
  · by_cases hs : s = [] ∧ o.rule.carries = true
    · exact (herror hs).2.arrays
    · refine (hok ?_).2.arrays
      rcases Decidable.not_and_iff_not_or_not.mp hs with hdimensions | hnone
      · exact Or.inl hdimensions
      · exact Or.inr (eq_false_of_ne_true hnone)

/-! ## Trials -/

theorem inFloats_adam : adam.InFloats where
  rule := ⟨⟨0.9, rfl, by decide, by decide⟩, ⟨0.999, rfl, by decide, by decide⟩, ⟨1e-8, rfl⟩⟩
  rate := ⟨0.001, rfl⟩
  rescale := ⟨1.0, rfl⟩
  clip := Or.inl rfl

/-- An update of ones by ones. -/
def unitUpdate (d : Dtype) (s : Shape) : Update := ⟨"w", .ones d s, .ones d s⟩

theorem updates_of_every_shape_column :
    let updates := [unitUpdate ⟨.float .half, true⟩ [2, 1], unitUpdate ⟨.float .half, true⟩ [2, 1]]
    (∀ outcome ∈ adam.outcomes updates,
        ∃ w, outcome.2 = .ok w ∧ w.dtype = .native (.float .half) ∧ w.shape = [2, 1]) ∧
      ∀ entry ∈ (adam.afterUpdates updates).state,
        entry.2.dtype = ⟨.float .half, true⟩ ∧ entry.2.shape = [2, 1] := by
  intro updates
  have hupdates : ∀ u ∈ updates, u.Of "w" ⟨.float .half, true⟩ [2, 1] := by
    intro u hu
    obtain rfl : u = unitUpdate ⟨.float .half, true⟩ [2, 1] := by simpa [updates] using hu
    exact ⟨rfl, ⟨rfl, rfl⟩, rfl, rfl⟩
  have hmade : ofName "adam" [] = .ok adam := by rfl
  obtain ⟨hok, -, hstate⟩ := updates_of_every_shape hmade inFloats_adam rfl hupdates
    fun _ => Nat.pow_lt_pow_right (by decide : 1 < 2) (by decide : 1 < 1023)
  exact ⟨hok (Or.inl (by decide)), hstate⟩

/-- A number alone has no update under a momentum. -/
theorem number_not_updated :
    ∃ o, ofName "sgd" [("momentum", .float 0.9)] = .ok o ∧
      (o.outcomes [unitUpdate .float32 []]).map (·.2.toOption) = [none] := by
  refine ⟨_, rfl, ?_⟩
  decide +kernel

end Optimizer

end DataParallel

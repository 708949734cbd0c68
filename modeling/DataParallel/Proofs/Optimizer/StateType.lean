import DataParallel.Proofs.Optimizer.FailedUpdate
import DataParallel.Proofs.Server.StartingOver
import DataParallel.Proofs.Step.Yields
import DataParallel.Proofs.Tensor.FloatType

/-!
# The element types of state arrays

A state array is made in the element type of the weight that it is first needed for, and every
update overwrites it in this type; the gradient has no say in it.  The new weight is a float if the
old one is or if the learning rate is, since a float on one side of an operation makes a float.
-/

namespace DataParallel

/-- The names of the state arrays that a rule carries. -/
def Rule.slots : Rule → List String
  | sgd momentum _ => if momentum.same (.int 0) then [] else ["velocity"]
  | adam .. => ["m", "v"]

theorem Rule.slots_subset (rule : Rule) : rule.slots ⊆ Optimizer.parts := by
  cases rule with
  | sgd momentum decay =>
    rw [slots]
    split
    · exact List.nil_subset _
    · decide
  | adam beta₁ beta₂ epsilon =>
    rw [slots]
    decide

namespace Optimizer

open Step

/-- The parameter has all state arrays that the rule carries. -/
def Filled (o : Optimizer) (id : String) : Prop :=
  ∀ part ∈ o.rule.slots, (o.state.lookup (key id part)).isSome

theorem Filled.agree {o o' : Optimizer} {id : String} (h : o.Filled id) (hagree : Agree id o o') :
    o'.Filled id := by
  intro part hpart
  rw [← hagree.rule] at hpart
  rw [← hagree.state part (o.rule.slots_subset hpart)]
  exact h part hpart

/-! ## What is written is of the type of the array -/

section Written

variable {o : Optimizer} {u : Update} {part : String} {t : Tensor}

theorem names_of_writes {entries : Writes} (h : o.writes u = .ok entries) :
    entries.map Prod.fst = o.rule.slots := by
  obtain ⟨grad, -, hrule⟩ := exists_of_bind_eq_ok h
  rcases ho : o.rule with ⟨momentum, decay⟩ | ⟨beta₁, beta₂, epsilon⟩
  · rw [ho] at hrule
    obtain ⟨g, -, hentries⟩ := exists_of_bind_eq_ok hrule
    rw [Rule.slots]
    split at hentries
    · next hmomentum =>
      rw [← Except.ok.inj hentries, if_pos hmomentum]
      rfl
    · next hmomentum =>
      rw [← Except.ok.inj hentries, if_neg hmomentum]
      rfl
  · rw [ho] at hrule
    rw [← Except.ok.inj hrule]
    rfl

theorem dtype_rolledOn {momentum : Value} {velocity grad : Tensor}
    (h : rolledOn momentum velocity grad = .ok t) : t.dtype = velocity.dtype := by
  obtain ⟨carried, -, h⟩ := exists_of_bind_eq_ok h
  obtain ⟨sum, -, h⟩ := exists_of_bind_eq_ok h
  exact Tensor.dtype_assign h

theorem dtype_averagedOn {beta : Value} {old new : Tensor}
    (h : averagedOn beta old new = .ok t) : t.dtype = old.dtype := by
  obtain ⟨value, -, h⟩ := exists_of_bind_eq_ok h
  exact Tensor.dtype_assign h

theorem dtype_of_writes {entries : Writes} (h : o.writes u = .ok entries)
    (ht : (part, .ok t) ∈ entries) : t.dtype = (o.arrayOf u.id part u.weight).dtype := by
  obtain ⟨grad, -, hrule⟩ := exists_of_bind_eq_ok h
  rcases ho : o.rule with ⟨momentum, decay⟩ | ⟨beta₁, beta₂, epsilon⟩
  · rw [ho] at hrule
    obtain ⟨g, -, hentries⟩ := exists_of_bind_eq_ok hrule
    split at hentries
    · rw [← Except.ok.inj hentries] at ht
      cases ht
    · rw [← Except.ok.inj hentries] at ht
      obtain ⟨rfl, hvelocity⟩ := Prod.mk.inj (List.mem_singleton.mp ht)
      exact dtype_rolledOn hvelocity.symm
  · rw [ho] at hrule
    rw [← Except.ok.inj hrule, adamWrites, List.mem_cons, List.mem_singleton] at ht
    rcases ht with ht | ht
    · obtain ⟨rfl, hm⟩ := Prod.mk.inj ht
      exact dtype_averagedOn hm.symm
    · obtain ⟨rfl, hv⟩ := Prod.mk.inj ht
      exact dtype_averagedOn hv.symm

/-- An array keeps its type; one that is made has that of the weight. -/
theorem Regular.dtype_after (h : o.Regular) (u : Update)
    (ht : (u.after o).state.lookup (key u.id part) = some t) :
    (∃ old, o.state.lookup (key u.id part) = some old ∧ t.dtype = old.dtype) ∨
      part ∈ o.rule.slots ∧ o.state.lookup (key u.id part) = none ∧ t.dtype = u.weight.dtype := by
  obtain ⟨n, -, hn⟩ := h.next u.id
  rcases hwrites : o.writes u with fault | entries
  · rw [state_after_of_error h.sane.taken u hn hwrites] at ht
    exact Or.inl ⟨t, ht, rfl⟩
  · by_cases hpart : part ∈ entries.map Prod.fst
    · have hdtype : t.dtype = (o.arrayOf u.id part u.weight).dtype := by
        rcases lookup_after_of_mem h.sane.taken u hn hwrites hpart with hmade | ⟨w, hw, hwritten⟩
        · rw [ht] at hmade
          rw [Option.some.inj hmade]
        · rw [ht] at hwritten
          rw [Option.some.inj hwritten]
          exact dtype_of_writes hwrites hw
      rw [names_of_writes hwrites] at hpart
      rw [arrayOf] at hdtype
      rcases hlookup : o.state.lookup (key u.id part) with _ | old
      · rw [hlookup] at hdtype
        exact Or.inr ⟨hpart, rfl, hdtype⟩
      · rw [hlookup] at hdtype
        exact Or.inl ⟨old, rfl, hdtype⟩
    · rw [lookup_after_of_notMem h.sane.taken u hn hwrites hpart] at ht
      exact Or.inl ⟨t, ht, rfl⟩

theorem settings_after (o : Optimizer) (u : Update) : o.SameSettings (u.after o) :=
  settings_along_update u.id u.weight u.grad o

/-- An update that comes as far as the arrays leaves none missing; any other one fails and leaves
them alone. -/
theorem Regular.filled_after (h : o.Regular) (u : Update) :
    (u.after o).Filled u.id ∨
      (u.after o).state = o.state ∧ ∃ fault, (u.step.runFrom o).1 = .error fault := by
  obtain ⟨n, -, hn⟩ := h.next u.id
  rcases hwrites : o.writes u with fault | entries
  · refine Or.inr ⟨state_after_of_error h.sane.taken u hn hwrites, fault, ?_⟩
    rw [runFrom_step_of_error h.sane.taken u hn hwrites]
  · refine Or.inl fun part hpart => ?_
    rw [(settings_after o u).rule_eq, ← names_of_writes hwrites] at hpart
    rcases lookup_after_of_mem h.sane.taken u hn hwrites hpart with hmade | ⟨w, -, hwritten⟩
    · rw [hmade]
      rfl
    · rw [hwritten]
      rfl

end Written

/-! ## Floats stay floats -/

theorem isFloat_descend {weight direction w : Tensor} {rate : Value}
    (h : descend weight rate direction = .ok w) (hfloat : weight.IsFloat ∨ ∃ x, rate = .float x) :
    w.IsFloat := by
  obtain ⟨move, hmove, h⟩ := exists_of_bind_eq_ok h
  exact Tensor.isFloat_combine h
    (hfloat.imp_right fun hrate => Tensor.isFloat_combineSingle hmove (Or.inr hrate))

/-- A quotient is a float. -/
theorem isFloat_corrected {beta n : Value} {moment t : Tensor}
    (h : corrected beta n moment = .ok t) : t.IsFloat := by
  obtain ⟨base, -, h⟩ := exists_of_bind_eq_ok h
  obtain ⟨exponent, -, h⟩ := exists_of_bind_eq_ok h
  obtain ⟨power, -, h⟩ := exists_of_bind_eq_ok h
  exact Tensor.isFloat_combineScalar h (Or.inl rfl)

section Runs

variable {o : Optimizer} {id : String} {weight : Tensor}

/-- The settings stay the same, and nothing is said of the result. -/
theorem yields_of_along {α : Type} {step : Step Optimizer α} (h : Along SameSettings step) :
    Yields o.SameSettings step fun _ => True :=
  fun _ _ _ hp hrun => ⟨IsTrans.trans (r := SameSettings) _ _ _ hp (h.of_run hrun), trivial⟩

theorem settings_put : ∀ part ∈ parts, ∀ t (p : Optimizer),
    SameSettings p { p with state := Keyed.put (key id part) t p.state } :=
  fun _ _ _ _ => rfl

theorem yields_isFloat_applySgd (momentum decay : Value) (grad : Tensor)
    (hfloat : weight.IsFloat ∨ ∃ x, o.rate = .float x) :
    Yields o.SameSettings (applySgd momentum decay id weight grad) Tensor.IsFloat := by
  refine yields_bind (yields_of_along (along_ofExcept _)) fun g _ =>
    yields_bind yields_get fun p hp => ?_
  rw [← hp.rate_eq] at hfloat
  dsimp only
  split
  · exact yields_ofExcept fun w hw => isFloat_descend hw hfloat
  · refine yields_bind (yields_of_along (along_slot settings_put (by simp [parts]) weight))
      fun velocity _ => ?_
    refine yields_bind (yields_of_along (along_ofExcept _)) fun carried _ =>
      yields_bind (yields_of_along (along_ofExcept _)) fun sum _ => ?_
    refine yields_bind (yields_of_along (along_overwrite settings_put (by simp [parts]) _ _))
      fun velocity _ => ?_
    exact yields_ofExcept fun w hw => isFloat_descend hw hfloat

/-- The weight is moved by a quotient. -/
theorem yields_isFloat_applyAdam (beta₁ beta₂ epsilon : Value) (grad : Tensor) :
    Yields o.SameSettings (applyAdam beta₁ beta₂ epsilon id weight grad) Tensor.IsFloat := by
  refine yields_bind (yields_of_along (along_slot settings_put (by simp [parts]) weight))
      fun m _ =>
    yields_bind (yields_of_along (along_slot settings_put (by simp [parts]) weight)) fun v _ =>
    yields_bind (yields_of_along (along_need _)) fun _ _ => yields_bind yields_get fun p _ => ?_
  refine yields_bind (yields_of_along (along_ofExcept _)) fun m' _ =>
    yields_bind (yields_of_along (along_overwrite settings_put (by simp [parts]) _ _)) fun m _ =>
    yields_bind (yields_of_along (along_ofExcept _)) fun v' _ =>
    yields_bind (yields_of_along (along_overwrite settings_put (by simp [parts]) _ _))
      fun v _ => ?_
  refine yields_bind (yields_ofExcept fun t ht => isFloat_corrected ht) fun mean hmean =>
    yields_bind (yields_of_along (along_ofExcept _)) fun variance _ =>
    yields_bind yields_get fun p _ => ?_
  refine yields_bind (yields_ofExcept fun t ht => Tensor.isFloat_combineValue ht (Or.inl hmean))
    fun scaled hscaled => yields_bind (yields_of_along (along_ofExcept _)) fun spread _ => ?_
  refine yields_bind (yields_ofExcept fun t ht => Tensor.isFloat_combine ht (Or.inl hscaled))
    fun move hmove => ?_
  exact yields_ofExcept fun w hw => Tensor.isFloat_combine hw (Or.inr hmove)

/-- An update of a float, or at a float learning rate, gives a float. -/
theorem isFloat_update {grad w : Tensor} {o' : Optimizer}
    (hrun : (update id weight grad).runFrom o = (.ok w, o'))
    (hfloat : weight.IsFloat ∨ ∃ x, o.rate = .float x) : w.IsFloat := by
  have hyields : Yields o.SameSettings (update id weight grad) Tensor.IsFloat := by
    refine yields_bind (yields_of_along (along_need _)) fun _ _ =>
      yields_bind yields_get fun p _ =>
      yields_bind (yields_of_along (along_ofExcept _)) fun n _ =>
      yields_bind (yields_of_along (along_modify fun _ => rfl)) fun _ _ =>
      yields_bind (yields_of_along (along_need _)) fun _ _ =>
      yields_bind yields_get fun p _ => ?_
    refine yields_bind (yields_of_along (along_ofExcept _)) fun g _ =>
      yields_bind (yields_of_along (along_need _)) fun _ _ => yields_bind yields_get fun p _ => ?_
    split
    · exact yields_isFloat_applySgd _ _ g hfloat
    · exact yields_isFloat_applyAdam _ _ _ g
  exact (hyields o w o' rfl hrun).2

end Runs

end Optimizer

end DataParallel

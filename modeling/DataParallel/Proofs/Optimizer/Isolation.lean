import DataParallel.Optimizer.Update
import DataParallel.Proofs.Step.Along
import DataParallel.Proofs.Step.Coupled

/-!
# Parameters do not meet in an optimizer

An optimizer keeps the counts and the state arrays of all parameters side by
side.  An update of one parameter reads nothing of another one and changes
nothing of it: two optimizers that agree on a parameter give the same update
and still agree on it, and they go on agreeing while other parameters are
updated.
-/

namespace DataParallel

namespace Optimizer

open Step

/-- The names of the state arrays that the rules use. -/
def parts : List String := ["velocity", "m", "v"]

/-- Two optimizers have the same settings, and the same count and state arrays
of a parameter. -/
structure Agree (id : String) (o o' : Optimizer) : Prop where
  rule : o.rule = o'.rule
  rate : o.rate = o'.rate
  rescale : o.rescale = o'.rescale
  clip : o.clip = o'.clip
  taken : o.taken = o'.taken
  count : o.count id = o'.count id
  state : ∀ part ∈ parts, o.state.lookup (key id part) = o'.state.lookup (key id part)

namespace Agree

variable {id : String} {o o' o'' : Optimizer}

theorem refl (id : String) (o : Optimizer) : Agree id o o :=
  ⟨rfl, rfl, rfl, rfl, rfl, rfl, fun _ _ => rfl⟩

theorem symm (h : Agree id o o') : Agree id o' o :=
  ⟨h.rule.symm, h.rate.symm, h.rescale.symm, h.clip.symm, h.taken.symm, h.count.symm,
    fun part hpart => (h.state part hpart).symm⟩

theorem trans (h : Agree id o o') (h' : Agree id o' o'') : Agree id o o'' :=
  ⟨h.rule.trans h'.rule, h.rate.trans h'.rate, h.rescale.trans h'.rescale,
    h.clip.trans h'.clip, h.taken.trans h'.taken, h.count.trans h'.count,
    fun part hpart => (h.state part hpart).trans (h'.state part hpart)⟩

instance (id : String) : IsPreorder Optimizer (Agree id) where
  refl := refl id
  trans _ _ _ := trans

end Agree

/-! ## The names of state arrays -/

theorem toList_key (id part : String) :
    (key id part).toList = id.toList ++ '_' :: part.toList := by
  simp [key]

theorem key_inj {id id' part : String} (h : key id part = key id' part) : id = id' := by
  have hlist := congrArg String.toList h
  rw [toList_key, toList_key] at hlist
  exact String.toList_inj.mp (List.append_cancel_right hlist)

/-- The state arrays of two parameters have different names: names of the same
part differ in the identity, and others in the last letter. -/
theorem key_ne {id id' part part' : String} (hid : id' ≠ id) (hpart : part ∈ parts)
    (hpart' : part' ∈ parts) : key id part ≠ key id' part' := by
  intro h
  have hlast := congrArg (fun s => s.toList.getLast?) h
  simp only [toList_key] at hlast
  simp only [parts, List.mem_cons, List.not_mem_nil, or_false] at hpart hpart'
  rcases hpart with rfl | rfl | rfl <;> rcases hpart' with rfl | rfl | rfl <;>
    simp at hlast <;> exact hid (key_inj h).symm

/-! ## An update sees its own parameter -/

section Seen

variable {id : String}

theorem coupled_need (name : String) : Coupled (Agree id) (need name) := by
  refine coupled_get_bind (fun o o' h => ?_) fun o => coupled_ofExcept _
  rw [available, available, h.taken]

theorem agree_put {part : String} {t : Tensor} {o o' : Optimizer} (h : Agree id o o') :
    Agree id { o with state := Keyed.put (key id part) t o.state }
      { o' with state := Keyed.put (key id part) t o'.state } := by
  refine ⟨h.rule, h.rate, h.rescale, h.clip, h.taken, h.count, fun part' hpart' => ?_⟩
  simp only [Keyed.lookup_put, h.state part' hpart']

theorem coupled_slot {part : String} (hpart : part ∈ parts) (weight : Tensor) :
    Coupled (Agree id) (slot id part weight) := by
  refine coupled_bind (coupled_need _) fun _ =>
    coupled_get_bind (fun o o' h => ?_) fun o => ?_
  · rw [h.state part hpart]
  · rcases o.state.lookup (key id part) with _ | t
    · exact coupled_bind (coupled_modify fun o o' h => agree_put h) fun _ => coupled_pure _
    · exact coupled_pure _

theorem coupled_overwrite (part : String) (old value : Tensor) :
    Coupled (Agree id) (overwrite id part old value) :=
  coupled_bind (coupled_ofExcept _) fun _ =>
    coupled_bind (coupled_modify fun _ _ h => agree_put h) fun _ => coupled_pure _

theorem coupled_applySgd (momentum decay : Value) (weight grad : Tensor) :
    Coupled (Agree id) (applySgd momentum decay id weight grad) := by
  refine coupled_bind (coupled_ofExcept _) fun grad =>
    coupled_get_bind (fun o o' h => by rw [h.rate]) fun o => ?_
  split
  · exact coupled_ofExcept _
  · refine coupled_bind (coupled_slot (by simp [parts]) weight) fun velocity => ?_
    refine coupled_bind (coupled_ofExcept _) fun carried =>
      coupled_bind (coupled_ofExcept _) fun sum => ?_
    exact coupled_bind (coupled_overwrite _ _ _) fun velocity => coupled_ofExcept _

theorem coupled_applyAdam (beta₁ beta₂ epsilon : Value) (weight grad : Tensor) :
    Coupled (Agree id) (applyAdam beta₁ beta₂ epsilon id weight grad) := by
  refine coupled_bind (coupled_slot (by simp [parts]) weight) fun m =>
    coupled_bind (coupled_slot (by simp [parts]) weight) fun v =>
    coupled_bind (coupled_need _) fun _ =>
    coupled_get_bind (fun o o' h => by rw [h.count]) fun o => ?_
  refine coupled_bind (coupled_ofExcept _) fun m' =>
    coupled_bind (coupled_overwrite _ _ _) fun m =>
    coupled_bind (coupled_ofExcept _) fun v' =>
    coupled_bind (coupled_overwrite _ _ _) fun v =>
    coupled_bind (coupled_ofExcept _) fun mean =>
    coupled_bind (coupled_ofExcept _) fun variance => ?_
  refine coupled_get_bind (fun o o' h => by rw [h.rate]) fun o => ?_
  exact coupled_bind (coupled_ofExcept _) fun scaled =>
    coupled_bind (coupled_ofExcept _) fun spread =>
    coupled_bind (coupled_ofExcept _) fun step => coupled_ofExcept _

/-- An update depends on nothing but the settings and what is kept of its own
parameter. -/
theorem coupled_update (weight grad : Tensor) :
    Coupled (Agree id) (update id weight grad) := by
  refine coupled_bind (coupled_need _) fun _ =>
    coupled_get_bind (fun o o' h => by rw [h.count]) fun o =>
    coupled_bind (coupled_ofExcept _) fun n =>
    coupled_bind (coupled_modify fun o o' h => ?_) fun _ =>
    coupled_bind (coupled_need _) fun _ =>
    coupled_get_bind (fun o o' h => ?_) fun o =>
    coupled_bind (coupled_ofExcept _) fun grad =>
    coupled_bind (coupled_need _) fun _ => ?_
  · refine ⟨h.rule, h.rate, h.rescale, h.clip, h.taken, ?_, h.state⟩
    simp only [count, Keyed.lookup_put, if_pos]
  · rw [preprocess, preprocess, h.rescale, h.clip]
  · refine coupled_get_bind (fun o o' h => by rw [h.rule]) fun o => ?_
    rcases o.rule with ⟨momentum, decay⟩ | ⟨beta₁, beta₂, epsilon⟩
    · exact coupled_applySgd momentum decay weight grad
    · exact coupled_applyAdam beta₁ beta₂ epsilon weight grad

end Seen

/-! ## An update changes its own parameter -/

section Changed

variable {id : String} {R : Optimizer → Optimizer → Prop} [IsPreorder Optimizer R]

theorem along_need (name : String) : Along R (need name) :=
  along_bind along_get fun _ => along_ofExcept _

variable (hput : ∀ part ∈ parts, ∀ t o, R o { o with state := Keyed.put (key id part) t o.state })

include hput

theorem along_slot {part : String} (hpart : part ∈ parts) (weight : Tensor) :
    Along R (slot id part weight) := by
  refine along_bind (along_need _) fun _ => along_bind along_get fun o => ?_
  split
  · exact along_pure _
  · exact along_bind (along_modify (hput part hpart _)) fun _ => along_pure _

theorem along_overwrite {part : String} (hpart : part ∈ parts) (old value : Tensor) :
    Along R (overwrite id part old value) :=
  along_bind (along_ofExcept _) fun t =>
    along_bind (along_modify (hput part hpart t)) fun _ => along_pure _

theorem along_applySgd (momentum decay : Value) (weight grad : Tensor) :
    Along R (applySgd momentum decay id weight grad) := by
  refine along_bind (along_ofExcept _) fun grad => along_bind along_get fun o => ?_
  split
  · exact along_ofExcept _
  · refine along_bind (along_slot hput (by simp [parts]) weight) fun velocity => ?_
    refine along_bind (along_ofExcept _) fun carried => along_bind (along_ofExcept _) fun sum => ?_
    exact along_bind (along_overwrite hput (by simp [parts]) _ _) fun _ => along_ofExcept _

theorem along_applyAdam (beta₁ beta₂ epsilon : Value) (weight grad : Tensor) :
    Along R (applyAdam beta₁ beta₂ epsilon id weight grad) := by
  refine along_bind (along_slot hput (by simp [parts]) weight) fun m =>
    along_bind (along_slot hput (by simp [parts]) weight) fun v =>
    along_bind (along_need _) fun _ => along_bind along_get fun o => ?_
  refine along_bind (along_ofExcept _) fun m' =>
    along_bind (along_overwrite hput (by simp [parts]) _ _) fun m =>
    along_bind (along_ofExcept _) fun v' =>
    along_bind (along_overwrite hput (by simp [parts]) _ _) fun v => ?_
  exact along_bind (along_ofExcept _) fun mean => along_bind (along_ofExcept _) fun variance =>
    along_bind along_get fun o => along_bind (along_ofExcept _) fun scaled =>
    along_bind (along_ofExcept _) fun spread => along_bind (along_ofExcept _) fun step =>
    along_ofExcept _

/-- All that an update changes is the count and the state arrays of its parameter. -/
theorem along_changes (hcount : ∀ n o, R o { o with counts := Keyed.put id n o.counts })
    (weight grad : Tensor) : Along R (update id weight grad) := by
  refine along_bind (along_need _) fun _ => along_bind along_get fun o =>
    along_bind (along_ofExcept _) fun n => along_bind (along_modify (hcount n)) fun _ =>
    along_bind (along_need _) fun _ => along_bind along_get fun o =>
    along_bind (along_ofExcept _) fun grad => along_bind (along_need _) fun _ =>
    along_bind along_get fun o => ?_
  split
  · exact along_applySgd hput _ _ weight grad
  · exact along_applyAdam hput _ _ _ weight grad

end Changed

/-- An update changes neither the settings nor what is kept of another parameter. -/
theorem along_update {id id' : String} (hid : id' ≠ id) (weight grad : Tensor) :
    Along (Agree id) (update id' weight grad) := by
  apply along_changes
  · intro part hpart t o
    refine ⟨rfl, rfl, rfl, rfl, rfl, rfl, fun part' hpart' => ?_⟩
    simp only [Keyed.lookup_put, if_neg (key_ne hid hpart' hpart)]
  · intro n o
    refine ⟨rfl, rfl, rfl, rfl, rfl, ?_, fun _ _ => rfl⟩
    simp only [count, Keyed.lookup_put, if_neg (Ne.symm hid)]

end Optimizer

end DataParallel

import DataParallel.Proofs.Optimizer.Interleaving

/-!
# What an update writes

An update counts itself, makes the arrays that its parameter lacks, and writes over them one after
the other.  All that it writes is calculated from the weight, the gradient and the arrays as they
are in the beginning, so it can be told in advance: part by part, an array or a fault.  The update
writes as far as the first fault; what it calculates after the last array changes nothing.
-/

namespace DataParallel

namespace Optimizer

open Step

/-- What is written over the arrays of a parameter, in this order. -/
abbrev Writes := List (String × Except Fault Tensor)

/-- The array that a parameter has, or that is made for it. -/
def arrayOf (o : Optimizer) (id part : String) (weight : Tensor) : Tensor :=
  (o.state.lookup (key id part)).getD (.zeros weight.dtype weight.shape)

/-- A velocity after a further gradient. -/
def rolledOn (momentum : Value) (velocity grad : Tensor) : Except Fault Tensor := do
  let carried ← velocity.combineValue .multiply momentum
  let sum ← carried.combine .add grad
  velocity.assign sum

/-- An average after a further value. -/
def averagedOn (beta : Value) (old new : Tensor) : Except Fault Tensor := do
  old.assign (← average beta old new)

/-- What gradient descent writes; without momentum it has no arrays. -/
def sgdWrites (o : Optimizer) (momentum decay : Value) (id : String) (weight grad : Tensor) :
    Except Fault Writes := do
  let grad ← decayed decay weight grad
  if momentum.same (.int 0) then return []
  else return [("velocity", rolledOn momentum (o.arrayOf id "velocity" weight) grad)]

/-- What Adam writes. -/
def adamWrites (o : Optimizer) (beta₁ beta₂ : Value) (id : String) (weight grad : Tensor) :
    Writes :=
  [("m", averagedOn beta₁ (o.arrayOf id "m" weight) grad),
    ("v", averagedOn beta₂ (o.arrayOf id "v" weight) grad.square)]

/-- What an update writes, if it comes as far as its rule. -/
def writes (o : Optimizer) (u : Update) : Except Fault Writes := do
  let grad ← preprocess o u.grad
  match o.rule with
  | .sgd momentum decay => o.sgdWrites momentum decay u.id u.weight grad
  | .adam beta₁ beta₂ _ => return o.adamWrites beta₁ beta₂ u.id u.weight grad

/-- Everything is written. -/
def whole : Except Fault Writes → Bool
  | .ok entries => entries.all fun entry => entry.2.isOk
  | .error _ => false

/-- The gradient enters all arrays of the parameter. -/
def Enters (o : Optimizer) (u : Update) : Prop := whole (o.writes u) = true

instance (o : Optimizer) (u : Update) : Decidable (o.Enters u) :=
  inferInstanceAs (Decidable (whole (o.writes u) = true))

/-! ## Writing -/

/-- The optimizer with another count of a parameter. -/
def withCount (o : Optimizer) (id : String) (n : Value) : Optimizer :=
  { o with counts := Keyed.put id n o.counts }

/-- The optimizer with another array of a parameter. -/
def withArray (o : Optimizer) (id part : String) (t : Tensor) : Optimizer :=
  { o with state := Keyed.put (key id part) t o.state }

/-- The optimizer with an array of zeros, where a parameter has none. -/
def made (o : Optimizer) (id : String) (weight : Tensor) (part : String) : Optimizer :=
  match o.state.lookup (key id part) with
  | some _ => o
  | none => o.withArray id part (.zeros weight.dtype weight.shape)

/-- Writes as far as the first fault. -/
def writeAll (id : String) : Optimizer → Writes → Optimizer
  | o, (part, .ok t) :: rest => writeAll id (o.withArray id part t) rest
  | o, _ => o

section Lookup

variable (o : Optimizer) (id : String) (weight : Tensor) (part part' : String)

theorem lookup_withArray (t : Tensor) :
    (o.withArray id part t).state.lookup (key id part') =
      if part' = part then some t else o.state.lookup (key id part') := by
  have hkey : key id part' = key id part ↔ part' = part := by
    rw [key, key, String.append_right_inj]
  simp only [withArray, Keyed.lookup_put, hkey]

theorem lookup_made :
    (o.made id weight part).state.lookup (key id part') =
      if part' = part then some (o.arrayOf id part weight)
      else o.state.lookup (key id part') := by
  rw [made, arrayOf]
  split
  · next t ht =>
    split
    · next hpart => rw [hpart, ht, Option.getD_some]
    · rfl
  · next hnone => rw [lookup_withArray, hnone, Option.getD_none]

/-- An array that is made for a parameter is the one that it had in the first place. -/
theorem arrayOf_made : (o.made id weight part).arrayOf id part' weight =
    o.arrayOf id part' weight := by
  rw [arrayOf, lookup_made]
  split
  · next hpart => rw [hpart, Option.getD_some]
  · rfl

theorem lookup_foldl_made (names : List String) :
    (names.foldl (made · id weight) o).state.lookup (key id part) =
      if part ∈ names then some (o.arrayOf id part weight) else o.state.lookup (key id part) := by
  induction names generalizing o with
  | nil => simp
  | cons name rest ih =>
    rw [List.foldl_cons, ih, arrayOf_made, lookup_made]
    by_cases hrest : part ∈ rest
    · simp [hrest]
    · by_cases hname : part = name <;> simp [hrest, hname]

end Lookup

theorem counts_foldl_made (o : Optimizer) (id : String) (weight : Tensor) (names : List String) :
    (names.foldl (made · id weight) o).counts = o.counts := by
  induction names generalizing o with
  | nil => rfl
  | cons name rest ih =>
    rw [List.foldl_cons, ih, made]
    split
    · rfl
    · rfl

section WriteAll

variable {id part : String} {o : Optimizer} {entries : Writes}

theorem lookup_writeAll_of_notMem (h : part ∉ entries.map Prod.fst) :
    (writeAll id o entries).state.lookup (key id part) = o.state.lookup (key id part) := by
  induction entries generalizing o with
  | nil => rfl
  | cons entry rest ih =>
    rcases entry with ⟨name, fault | t⟩
    · rfl
    · rw [List.map_cons, List.mem_cons, not_or] at h
      rw [writeAll, ih h.2, lookup_withArray, if_neg h.1]

theorem counts_writeAll (id : String) (o : Optimizer) (entries : Writes) :
    (writeAll id o entries).counts = o.counts := by
  induction entries generalizing o with
  | nil => rfl
  | cons entry rest ih =>
    rcases entry with ⟨name, fault | t⟩
    · rfl
    · exact ih (o.withArray id name t)

/-- An array is left as it was, or something was written over it. -/
theorem lookup_writeAll_cases (id part : String) (o : Optimizer) (entries : Writes) :
    (writeAll id o entries).state.lookup (key id part) = o.state.lookup (key id part) ∨
      ∃ t, (part, .ok t) ∈ entries ∧
        (writeAll id o entries).state.lookup (key id part) = some t := by
  induction entries generalizing o with
  | nil => exact Or.inl rfl
  | cons entry rest ih =>
    rcases entry with ⟨name, fault | t⟩
    · exact Or.inl rfl
    · rw [writeAll]
      rcases ih (o.withArray id name t) with hkept | ⟨u, hu, hwritten⟩
      · rw [hkept, lookup_withArray]
        split
        · next hpart =>
          subst hpart
          exact Or.inr ⟨t, List.mem_cons_self .., rfl⟩
        · exact Or.inl rfl
      · exact Or.inr ⟨u, List.mem_cons_of_mem _ hu, hwritten⟩

/-- If nothing is a fault, everything is written. -/
theorem lookup_writeAll_of_whole {t : Tensor} (hnames : (entries.map Prod.fst).Nodup)
    (hwhole : whole (.ok entries) = true) (ht : (part, .ok t) ∈ entries) :
    (writeAll id o entries).state.lookup (key id part) = some t := by
  induction entries generalizing o with
  | nil => cases ht
  | cons entry rest ih =>
    obtain ⟨hfirst, hrest⟩ := List.nodup_cons.mp hnames
    rcases entry with ⟨name, fault | u⟩
    · simp [whole, Except.isOk, Except.toBool] at hwhole
    · rw [writeAll]
      rcases List.mem_cons.mp ht with hhead | htail
      · obtain ⟨rfl, hu⟩ := Prod.mk.inj hhead
        rw [lookup_writeAll_of_notMem hfirst, lookup_withArray, if_pos rfl, Except.ok.inj hu]
      · refine ih hrest ?_ htail
        simpa [whole, Except.isOk, Except.toBool] using hwhole

end WriteAll

/-! ## The steps of an update -/

section Runs

variable {o : Optimizer} (ho : o.taken = [])

include ho

theorem runFrom_need (name : String) : (need name).runFrom o = (.ok (), o) := by
  rw [need, runFrom_bind_of_ok (runFrom_get o), available, ho]
  rfl

theorem runFrom_slot (id part : String) (weight : Tensor) :
    (slot id part weight).runFrom o = (.ok (o.arrayOf id part weight), o.made id weight part) := by
  rw [slot, runFrom_bind_of_ok (runFrom_need ho _), runFrom_bind_of_ok (runFrom_get o), arrayOf,
    made]
  rcases o.state.lookup (key id part) with _ | t
  · rfl
  · rfl

end Runs

theorem runFrom_overwrite (o : Optimizer) (id part : String) (old value : Tensor) :
    (overwrite id part old value).runFrom o =
      match old.assign value with
      | .ok t => (.ok t, o.withArray id part t)
      | .error fault => (.error fault, o) := by
  rw [overwrite, runFrom_bind, runFrom_ofExcept]
  rcases old.assign value with fault | t
  · rfl
  · rfl

/-! ## Updates write what is told in advance -/

/-- A run writes these entries, all of them if it succeeds. -/
structure Writing (id : String) (o : Optimizer) (entries : Writes)
    (run : Except Fault Tensor × Optimizer) : Prop where
  state : run.2 = writeAll id o entries
  whole : ∀ w, run.1 = .ok w → whole (.ok entries) = true

section Writing

variable {id : String} {o : Optimizer}

/-- A mere calculation writes nothing. -/
theorem writing_nothing {run : Except Fault Tensor × Optimizer} (h : run.2 = o) :
    Writing id o [] run :=
  ⟨h, fun _ _ => rfl⟩

/-- An array is calculated and written before the rest; if the calculation fails, nothing is
written. -/
theorem writing_overwrite {part : String} {old : Tensor} {value : Except Fault Tensor}
    {next : Tensor → Step Optimizer Tensor} {rest : Writes}
    (hnext : ∀ o t, Writing id o rest ((next t).runFrom o)) :
    Writing id o ((part, value >>= old.assign) :: rest)
      ((Step.ofExcept value >>= fun new => overwrite id part old new >>= next).runFrom o) := by
  rcases value with fault | new
  · exact ⟨rfl, fun _ h => by cases h⟩
  · have hvalue : (Except.ok new >>= old.assign : Except Fault Tensor) = old.assign new := rfl
    rw [hvalue, runFrom_bind_of_ok (runFrom_ofExcept _ o), runFrom_bind, runFrom_overwrite]
    rcases old.assign new with fault | t
    · exact ⟨rfl, fun _ h => by cases h⟩
    · obtain ⟨hstate, hwhole⟩ := hnext (o.withArray id part t) t
      refine ⟨hstate, fun w h => ?_⟩
      simpa [Optimizer.whole, Except.isOk, Except.toBool] using hwhole w h

/-- Calculations one after the other are one calculation. -/
theorem ofExcept_bind {α β γ : Type} (value : Except Fault α) (f : α → Except Fault β)
    (next : β → Step Optimizer γ) :
    (Step.ofExcept value >>= fun a => Step.ofExcept (f a) >>= next) =
      Step.ofExcept (value >>= f) >>= next := by
  rcases value with fault | a
  · rfl
  · rfl

end Writing

/-- A run makes what is missing and writes, if it comes so far. -/
def CarriesOut (o : Optimizer) (id : String) (weight : Tensor) :
    Except Fault Writes → Except Fault Tensor × Optimizer → Prop
  | .ok entries => Writing id ((entries.map Prod.fst).foldl (made · id weight) o) entries
  | .error fault => (· = (.error fault, o))

section Rules

variable {o : Optimizer} (ho : o.taken = []) (id : String) (weight grad : Tensor)

include ho

theorem taken_made (part : String) : (o.made id weight part).taken = [] := by
  rw [made]
  split
  · exact ho
  · exact ho

theorem carriesOut_sgd (momentum decay : Value) :
    CarriesOut o id weight (o.sgdWrites momentum decay id weight grad)
      ((applySgd momentum decay id weight grad).runFrom o) := by
  rw [sgdWrites, applySgd]
  rcases hdecayed : decayed decay weight grad with fault | g
  · rfl
  · rw [runFrom_bind_of_ok (runFrom_ofExcept _ o), runFrom_bind_of_ok (runFrom_get o)]
    change CarriesOut o id weight (if momentum.same (.int 0) then _ else _) _
    dsimp only
    split
    · exact writing_nothing rfl
    · rw [runFrom_bind_of_ok (runFrom_slot ho id "velocity" weight), ofExcept_bind]
      have hrolled := bind_assoc ((o.arrayOf id "velocity" weight).combineValue .multiply momentum)
        (fun carried => carried.combine .add g) (o.arrayOf id "velocity" weight).assign
      rw [rolledOn, ← hrolled]
      exact writing_overwrite fun _ _ => writing_nothing rfl

theorem carriesOut_adam (beta₁ beta₂ epsilon : Value) :
    CarriesOut o id weight (.ok (o.adamWrites beta₁ beta₂ id weight grad))
      ((applyAdam beta₁ beta₂ epsilon id weight grad).runFrom o) := by
  have hm : (o.made id weight "m").taken = [] := taken_made ho id weight "m"
  have hv : ((o.made id weight "m").made id weight "v").taken = [] := taken_made hm id weight "v"
  rw [applyAdam, runFrom_bind_of_ok (runFrom_slot ho id "m" weight),
    runFrom_bind_of_ok (runFrom_slot hm id "v" weight), arrayOf_made,
    runFrom_bind_of_ok (runFrom_need hv _), runFrom_bind_of_ok (runFrom_get _)]
  refine writing_overwrite fun _ _ => writing_overwrite fun o v' => writing_nothing ?_
  -- Only calculations are left, and they change nothing.
  symm
  revert o
  exact along_bind (along_ofExcept _) fun mean => along_bind (along_ofExcept _) fun variance =>
    along_bind along_get fun o => along_bind (along_ofExcept _) fun scaled =>
    along_bind (along_ofExcept _) fun spread => along_bind (along_ofExcept _) fun step =>
    along_ofExcept _

end Rules

/-- An update that is counted goes on to carry out what it writes. -/
theorem carriesOut_update {o : Optimizer} (ho : o.taken = []) (u : Update) {n : Value}
    (hn : counted (o.count u.id) = .ok n) :
    CarriesOut (o.withCount u.id n) u.id u.weight (o.writes u) (u.step.runFrom o) := by
  have hcounted : (o.withCount u.id n).taken = [] := ho
  have hwrites : o.writes u = (o.withCount u.id n).writes u := rfl
  have hn' : (Step.ofExcept (counted (o.count u.id))).runFrom o = (.ok n, o) := by
    rw [runFrom_ofExcept, hn]
  rw [hwrites, writes, Update.step, update, runFrom_bind_of_ok (runFrom_need ho _),
    runFrom_bind_of_ok (runFrom_get o), runFrom_bind_of_ok hn',
    runFrom_bind_of_ok (runFrom_modify _ o), ← withCount]
  generalize o.withCount u.id n = o at hcounted ⊢
  rw [runFrom_bind_of_ok (runFrom_need hcounted _), runFrom_bind_of_ok (runFrom_get o)]
  rcases hgrad : preprocess o u.grad with fault | grad
  · rfl
  · rw [runFrom_bind_of_ok (runFrom_ofExcept _ o), runFrom_bind_of_ok (runFrom_need hcounted _),
      apply, runFrom_bind_of_ok (runFrom_get o)]
    change CarriesOut o u.id u.weight (match o.rule with | .sgd .. => _ | .adam .. => _) _
    rcases o.rule with ⟨momentum, decay⟩ | ⟨beta₁, beta₂, epsilon⟩
    · exact carriesOut_sgd hcounted u.id u.weight grad momentum decay
    · exact carriesOut_adam hcounted u.id u.weight grad beta₁ beta₂ epsilon

/-! ## What an update leaves -/

section Left

variable {o : Optimizer} (ho : o.taken = []) (u : Update) {n : Value}
  (hn : counted (o.count u.id) = .ok n)

include ho hn

/-- An update that does not come as far as its arrays is counted, and that is all. -/
theorem runFrom_step_of_error {fault : Fault} (hwrites : o.writes u = .error fault) :
    u.step.runFrom o = (.error fault, o.withCount u.id n) := by
  have hrun := carriesOut_update ho u hn
  rw [hwrites] at hrun
  exact hrun

/-- All other updates make the arrays that are missing, and write. -/
theorem after_eq_writeAll {entries : Writes} (hwrites : o.writes u = .ok entries) :
    u.after o = writeAll u.id
      ((entries.map Prod.fst).foldl (made · u.id u.weight) (o.withCount u.id n)) entries := by
  have hrun := carriesOut_update ho u hn
  rw [hwrites] at hrun
  exact hrun.state

theorem count_after : (u.after o).count u.id = n := by
  have hput : (o.withCount u.id n).count u.id = n := by
    rw [count, withCount, Keyed.lookup_put, if_pos rfl, Option.getD_some]
  rcases hwrites : o.writes u with fault | entries
  · rw [Update.after, runFrom_step_of_error ho u hn hwrites]
    exact hput
  · rw [after_eq_writeAll ho u hn hwrites, count, counts_writeAll, counts_foldl_made]
    exact hput

theorem state_after_of_error {fault : Fault} (hwrites : o.writes u = .error fault) :
    (u.after o).state = o.state := by
  rw [Update.after, runFrom_step_of_error ho u hn hwrites]
  rfl

/-- Arrays that are not written are left alone. -/
theorem lookup_after_of_notMem {entries : Writes} (hwrites : o.writes u = .ok entries)
    {part : String} (hpart : part ∉ entries.map Prod.fst) :
    (u.after o).state.lookup (key u.id part) = o.state.lookup (key u.id part) := by
  rw [after_eq_writeAll ho u hn hwrites, lookup_writeAll_of_notMem hpart, lookup_foldl_made,
    if_neg hpart]
  rfl

/-- An array that is to be written is there afterwards, at least as it is made. -/
theorem lookup_after_of_mem {entries : Writes} (hwrites : o.writes u = .ok entries)
    {part : String} (hpart : part ∈ entries.map Prod.fst) :
    (u.after o).state.lookup (key u.id part) = some (o.arrayOf u.id part u.weight) ∨
      ∃ t, (part, .ok t) ∈ entries ∧ (u.after o).state.lookup (key u.id part) = some t := by
  rw [after_eq_writeAll ho u hn hwrites]
  rcases lookup_writeAll_cases u.id part _ entries with hkept | hwritten
  · rw [hkept, lookup_foldl_made, if_pos hpart]
    exact Or.inl rfl
  · exact Or.inr hwritten

/-- An update that succeeds has entered all its arrays. -/
theorem enters_of_ok {w : Tensor} (hok : (u.step.runFrom o).1 = .ok w) : o.Enters u := by
  rcases hwrites : o.writes u with fault | entries
  · rw [runFrom_step_of_error ho u hn hwrites] at hok
    cases hok
  · have hrun := carriesOut_update ho u hn
    rw [hwrites] at hrun
    rw [Enters, hwrites]
    exact hrun.whole w hok

end Left

end Optimizer

end DataParallel

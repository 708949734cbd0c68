import DataParallel.Proofs.Optimizer.Isolation

/-!
# Restoring an optimizer

A snapshot of an optimizer has every setting and all that is kept of parameters, so an optimizer of
the same rule that is restored from it is the one that the snapshot was taken of, whatever it was
before.
-/

namespace DataParallel

namespace Optimizer

open Step

/-- All operations can be carried out, and every state array has a name of its own. -/
structure Sane (o : Optimizer) : Prop where
  taken : o.taken = []
  named : (o.state.map Prod.fst).Nodup

theorem Sane.report {o : Optimizer} (h : o.Sane) : o.report = .ok o.snapshot := by
  rw [Optimizer.report, available, available, h.taken]
  rfl

/-! ## Settings -/

/-- The settings of an optimizer are under names of their own. -/
theorem hyperparameters_named (o : Optimizer) :
    ∀ entry ∈ o.hyperparameters, entry.1 ≠ "name" ∧ entry.1 ∉ operations := by
  have hnames : ∀ name ∈ o.hyperparameters.map Prod.fst, name ≠ "name" ∧ name ∉ operations := by
    rw [hyperparameters, List.map_append]
    cases o.rule with
    | sgd momentum decay =>
      simp only [List.map_cons, List.map_nil]
      decide
    | adam beta₁ beta₂ epsilon =>
      simp only [List.map_cons, List.map_nil]
      decide
  intro entry hentry
  exact hnames entry.1 (List.mem_map_of_mem hentry)

theorem taken_set {o : Optimizer} {name : String} {v : Value} (h : name ∉ operations) :
    (o.set name v).taken = o.taken := by
  rw [set]
  split
  · rfl
  · split
    · rfl
    · split
      · rfl
      · rfl

theorem counts_set (o : Optimizer) (name : String) (v : Value) :
    (o.set name v).counts = o.counts := by
  rw [set]
  repeat' split
  all_goals rfl

theorem state_set (o : Optimizer) (name : String) (v : Value) :
    (o.set name v).state = o.state := by
  rw [set]
  repeat' split
  all_goals rfl

/-- Settings under names that are no operations are set one after the other. -/
theorem runFrom_setAll {settings : List (String × Value)}
    (h : ∀ entry ∈ settings, entry.1 ≠ "name") (o : Optimizer) :
    (setAll settings).runFrom o =
      (.ok (), settings.foldl (fun o entry => o.set entry.1 entry.2) o) := by
  induction settings generalizing o with
  | nil => rfl
  | cons entry rest ih =>
    obtain ⟨name, v⟩ := entry
    have hname : name ≠ "name" := h (name, v) (List.mem_cons_self ..)
    have hrest := ih (fun entry hentry => h entry (List.mem_cons_of_mem _ hentry)) (o.set name v)
    rw [setAll, if_neg hname]
    exact hrest

theorem taken_foldl_set {settings : List (String × Value)}
    (h : ∀ entry ∈ settings, entry.1 ∉ operations) (o : Optimizer) :
    (settings.foldl (fun o entry => o.set entry.1 entry.2) o).taken = o.taken := by
  induction settings generalizing o with
  | nil => rfl
  | cons entry rest ih =>
    rw [List.foldl_cons, ih fun entry hentry => h entry (List.mem_cons_of_mem _ hentry)]
    exact taken_set (h entry (List.mem_cons_self ..))

/-- A snapshot can be restored into every optimizer; one of another rule takes the settings that it
has too. -/
theorem runFrom_restore {o : Optimizer} (htaken : o.taken = []) (s : Optimizer) :
    (restore s.snapshot).runFrom o =
      (.ok (), { s.hyperparameters.foldl (fun o entry => o.set entry.1 entry.2) o with
        counts := s.counts, state := s.state, otherCounts := s.otherCounts }) := by
  have hneed : (need "set_state").runFrom o = (.ok (), o) := by
    rw [need, runFrom_bind_of_ok (runFrom_get o), available, htaken]
    rfl
  have hset : (setAll s.snapshot.hyperparameters).runFrom o =
      (.ok (), s.hyperparameters.foldl (fun o entry => o.set entry.1 entry.2) o) :=
    runFrom_setAll (fun entry hentry => (s.hyperparameters_named entry hentry).1) o
  rw [restore, runFrom_bind_of_ok hneed, runFrom_bind_of_ok hset]
  rfl

theorem taken_restored {o : Optimizer} (htaken : o.taken = []) (s : Optimizer) :
    ((restore s.snapshot).runFrom o).2.taken = [] := by
  rw [runFrom_restore htaken]
  dsimp only
  rw [taken_foldl_set fun entry hentry => (s.hyperparameters_named entry hentry).2, htaken]

/-- An optimizer of the same rule takes all settings. -/
theorem foldl_set_same {o s : Optimizer} (hname : o.name = s.name) :
    s.hyperparameters.foldl (fun o entry => o.set entry.1 entry.2) o =
      { o with rule := s.rule, rate := s.rate, rescale := s.rescale, clip := s.clip } := by
  rw [hyperparameters, List.foldl_append]
  cases ho : o.rule with
  | sgd momentum decay =>
    cases hs : s.rule with
    | sgd momentum' decay' => simp [set, Rule.set, operations, ho]
    | adam beta₁ beta₂ epsilon =>
      simp [name, ho, hs] at hname
  | adam beta₁ beta₂ epsilon =>
    cases hs : s.rule with
    | sgd momentum decay =>
      simp [name, ho, hs] at hname
    | adam beta₁' beta₂' epsilon' => simp [set, Rule.set, operations, ho]

/-- An optimizer of the same rule becomes the one that the snapshot was taken of. -/
theorem runFrom_restore_same {o s : Optimizer} (ho : o.taken = []) (hs : s.taken = [])
    (hname : o.name = s.name) : (restore s.snapshot).runFrom o = (.ok (), s) := by
  rw [runFrom_restore ho, foldl_set_same hname, ho, ← hs]

/-! ## Sane optimizers -/

/-- What an optimizer goes through does not make it insane. -/
def StaysSane (o o' : Optimizer) : Prop := o.Sane → o'.Sane

instance : IsPreorder Optimizer StaysSane where
  refl _ := id
  trans _ _ _ h h' := h' ∘ h

theorem sane_update (id : String) (weight grad : Tensor) :
    Along StaysSane (update id weight grad) := by
  apply along_changes
  · intro part _ t o h
    exact ⟨h.taken, Keyed.nodup_put _ _ h.named⟩
  · intro n o h
    exact ⟨h.taken, h.named⟩

theorem Sane.forget {o : Optimizer} (h : o.Sane) (id : String) : (o.forget id).Sane where
  taken := h.taken
  named := h.named.sublist (List.Sublist.map Prod.fst List.filter_sublist)

theorem Sane.reset {o : Optimizer} (h : o.Sane) : o.reset.Sane where
  taken := h.taken
  named := List.nodup_nil

theorem Sane.restore {o s : Optimizer} (ho : o.Sane) (hs : s.Sane) :
    ((Optimizer.restore s.snapshot).runFrom o).2.Sane where
  taken := taken_restored ho.taken s
  named := by
    rw [runFrom_restore ho.taken]
    exact hs.named

theorem eq_of_checked {o o' : Optimizer} (h : o.checked = .ok o') : o = o' := by
  rw [checked] at h
  split at h
  · exact Except.ok.inj h
  · split at h
    · cases h
    · split at h
      · cases h
      · exact Except.ok.inj h

/-! ## Optimizers made by name -/

section Made

variable {P : Optimizer → Prop}
  (hset : ∀ (o : Optimizer) (name : String) (v : Value), name ∉ operations → P o → P (o.set name v))

include hset

theorem foldl_set_induction {settings : List (String × Value)}
    (h : ∀ entry ∈ settings, entry.1 ∉ operations) {o : Optimizer} (ho : P o) :
    P (settings.foldl (fun o entry => o.set entry.1 entry.2) o) := by
  induction settings generalizing o with
  | nil => exact ho
  | cons entry rest ih =>
    have hentry : entry.1 ∉ operations := h entry (List.mem_cons_self ..)
    exact ih (fun later hlater => h later (List.mem_cons_of_mem _ hlater)) (hset o _ _ hentry ho)

theorem configured_induction {o o' : Optimizer} (ho : P o) {settings : List (String × Value)}
    (h : o.configured settings = .ok o') : P o' := by
  rw [Optimizer.configured] at h
  split at h
  · next hall =>
    have hnames : ∀ entry ∈ settings, entry.1 ∉ operations := by
      intro entry hentry
      obtain ⟨known, hknown, hsame⟩ := List.any_eq_true.mp (List.all_eq_true.mp hall entry hentry)
      rw [← beq_iff_eq.mp hsame]
      exact (o.hyperparameters_named known hknown).2
    rw [← eq_of_checked h]
    exact foldl_set_induction hset hnames ho
  · cases h

/-- What holds of both rules with their usual settings, and is kept by other settings, holds of
every optimizer that is made by its name. -/
theorem ofName_induction (hsgd : P sgd) (hadam : P adam) {name : String}
    {settings : List (String × Value)} {o : Optimizer} (h : ofName name settings = .ok o) :
    P o := by
  rw [ofName] at h
  split at h
  · cases h
  · split at h
    · exact configured_induction hset hsgd h
    · exact configured_induction hset hadam h
    · cases h

end Made

/-- Every optimizer that is made by its name is sane, whatever its settings are. -/
theorem sane_ofName {name : String} {settings : List (String × Value)} {o : Optimizer}
    (h : ofName name settings = .ok o) : o.Sane := by
  refine ofName_induction (fun o name v hname ho => ?_) ⟨rfl, List.nodup_nil⟩
    ⟨rfl, List.nodup_nil⟩ h
  constructor
  · rw [taken_set hname, ho.taken]
  · rw [state_set]
    exact ho.named

/-- An optimizer that is made by its name has counted nothing and keeps nothing. -/
theorem unused_ofName {name : String} {settings : List (String × Value)} {o : Optimizer}
    (h : ofName name settings = .ok o) : o.counts = [] ∧ o.state = [] := by
  refine ofName_induction (P := fun o => o.counts = [] ∧ o.state = []) (fun o name v _ ho => ?_)
    ⟨rfl, rfl⟩ ⟨rfl, rfl⟩ h
  rwa [counts_set, state_set]

end Optimizer

end DataParallel

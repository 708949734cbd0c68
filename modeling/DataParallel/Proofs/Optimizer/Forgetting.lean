import DataParallel.Proofs.Optimizer.Interleaving
import DataParallel.Proofs.Optimizer.Restoring

/-!
# Forgetting a parameter

An optimizer that forgets a parameter drops its count and every array whose name begins with its
identity and an underscore.  Identities may have underscores of their own, so these arrays are not
all its own: those of a parameter whose identity goes on after the underscore are dropped too, while
its count stays.  All other parameters keep what they have, and the forgotten one begins anew.
-/

namespace DataParallel

namespace Optimizer

/-! ## Names of arrays that begin with an identity -/

/-- The second identity goes on with an underscore after the first one. -/
def Under (id other : String) : Prop := (key id "").toList <+: other.toList

instance (id other : String) : Decidable (Under id other) :=
  inferInstanceAs (Decidable ((key id "").toList <+: other.toList))

/-- Up to a letter that does not come again, a prefix either ends at this letter or before it. -/
theorem append_singleton_prefix_iff {α : Type} {a : α} {tail : List α} (ha : a ∉ tail)
    (xs ys : List α) : xs ++ [a] <+: ys ++ a :: tail ↔ ys = xs ∨ xs ++ [a] <+: ys := by
  induction xs generalizing ys with
  | nil =>
    cases ys with
    | nil => simp
    | cons y ys => simp
  | cons x xs ih =>
    cases ys with
    | nil =>
      have hno : ¬ x :: xs ++ [a] <+: a :: tail := by
        rw [List.cons_append, List.cons_prefix_cons]
        exact fun h => ha (h.2.subset (by simp))
      simpa using hno
    | cons y ys =>
      rw [List.cons_append, List.cons_append, List.cons_prefix_cons, List.cons_prefix_cons, ih,
        List.cons.injEq, and_or_left, eq_comm (a := x)]

theorem underscore_notMem {part : String} (hpart : part ∈ parts) : '_' ∉ part.toList := by
  revert part
  decide

/-- The arrays that go with an identity are its own and those of the identities under it. -/
theorem isPrefixOf_key_iff {id other part : String} (hpart : part ∈ parts) :
    (key id "").isPrefixOf (key other part) = true ↔ other = id ∨ Under id other := by
  have hname : (key id "").toList = id.toList ++ ['_'] := toList_key id ""
  rw [String.isPrefixOf, String.startsWith_string_iff, Under, hname, toList_key,
    append_singleton_prefix_iff (underscore_notMem hpart), String.toList_inj]

/-! ## What is left -/

section Left

variable (o : Optimizer) {id other part : String}

theorem count_forget (h : other ≠ id) : (o.forget id).count other = o.count other := by
  rw [count, count, forget, Keyed.lookup_drop, if_neg h]

theorem count_forget_self (id : String) : (o.forget id).count id = .int 0 := by
  rw [count, forget, Keyed.lookup_drop, if_pos rfl]
  rfl

theorem lookup_forget (h : other ≠ id) (hunder : ¬ Under id other) (hpart : part ∈ parts) :
    (o.forget id).state.lookup (key other part) = o.state.lookup (key other part) := by
  apply Keyed.lookup_filter fun name => !(key id "").isPrefixOf name
  have hno := mt (isPrefixOf_key_iff hpart).mp (not_or.mpr ⟨h, hunder⟩)
  simpa using hno

theorem lookup_forget_eq_none (h : other = id ∨ Under id other) (hpart : part ∈ parts) :
    (o.forget id).state.lookup (key other part) = none := by
  apply Keyed.lookup_filter_eq_none fun name => !(key id "").isPrefixOf name
  simpa using (isPrefixOf_key_iff hpart).mpr h

/-- A parameter that is neither the forgotten one nor under it keeps all that it has. -/
theorem agree_forget (h : other ≠ id) (hunder : ¬ Under id other) : Agree other (o.forget id) o :=
  ⟨rfl, rfl, rfl, rfl, rfl, o.count_forget h, fun _ hpart => o.lookup_forget h hunder hpart⟩

end Left

/-! ## Beginning anew -/

/-- An optimizer with the settings of another one that was never asked for an update. -/
structure Anew (o fresh : Optimizer) : Prop where
  rule : fresh.rule = o.rule
  rate : fresh.rate = o.rate
  rescale : fresh.rescale = o.rescale
  clip : fresh.clip = o.clip
  taken : fresh.taken = o.taken
  counts : fresh.counts = []
  state : fresh.state = []

section Anew

variable {o fresh : Optimizer}

/-- The name of the rule and the settings tell everything that can be set. -/
theorem settings_eq (hname : fresh.name = o.name)
    (hsettings : fresh.hyperparameters = o.hyperparameters) :
    fresh.rule = o.rule ∧ fresh.rate = o.rate ∧ fresh.rescale = o.rescale ∧
      fresh.clip = o.clip := by
  rw [hyperparameters, hyperparameters] at hsettings
  rw [name, name] at hname
  cases hfresh : fresh.rule <;> cases ho : o.rule <;> simp_all

/-- A new optimizer with the same name and settings. -/
theorem anew_ofName {name : String} {settings : List (String × Value)} (ho : o.Sane)
    (hmade : ofName name settings = .ok fresh) (hname : fresh.name = o.name)
    (hsettings : fresh.hyperparameters = o.hyperparameters) : Anew o fresh := by
  obtain ⟨hrule, hrate, hrescale, hclip⟩ := settings_eq hname hsettings
  obtain ⟨hcounts, hstate⟩ := unused_ofName hmade
  exact ⟨hrule, hrate, hrescale, hclip, (sane_ofName hmade).taken.trans ho.taken.symm, hcounts,
    hstate⟩

theorem Anew.agree (h : Anew o fresh) (id : String) : Agree id (o.forget id) fresh := by
  refine ⟨h.rule.symm, h.rate.symm, h.rescale.symm, h.clip.symm, h.taken.symm, ?_, ?_⟩
  · rw [o.count_forget_self, count, h.counts]
    rfl
  · intro part hpart
    rw [o.lookup_forget_eq_none (Or.inl rfl) hpart, h.state]
    rfl

end Anew

/-! ## Later updates -/

/-- Optimizers that agree on a parameter give it the same outcomes, and the same count and arrays in
the end, whatever else is asked for. -/
theorem Agree.same_outcomes {id : String} {o o' : Optimizer} (h : Agree id o o')
    (updates : List Update) :
    (o.outcomes updates).filter (·.1 == id) = (o'.outcomes updates).filter (·.1 == id) ∧
      Agree id (o.afterUpdates updates) (o'.afterUpdates updates) := by
  obtain ⟨hleft, hagree⟩ := h.outcomes updates
  obtain ⟨hright, hagree'⟩ := (Agree.refl id o').outcomes updates
  exact ⟨hleft.trans hright.symm, hagree.trans hagree'.symm⟩

/-- When a parameter is forgotten, every other one keeps its count.  One that is not under the
forgotten one keeps its arrays too, and so has the same outcomes whatever is asked for later; one
that is under it loses all its arrays.  The forgotten one has from then on the outcomes that it has
in a new optimizer with the same settings. -/
theorem forgets_own_and_under {o : Optimizer} (ho : o.Sane) (id : String) :
    (∀ other ≠ id, (o.forget id).count other = o.count other) ∧
      (∀ other ≠ id, ¬ Under id other → Agree other (o.forget id) o ∧ ∀ updates,
        ((o.forget id).outcomes updates).filter (·.1 == other) =
            (o.outcomes updates).filter (·.1 == other) ∧
          Agree other ((o.forget id).afterUpdates updates) (o.afterUpdates updates)) ∧
      (∀ other, Under id other → ∀ part ∈ parts,
        (o.forget id).state.lookup (key other part) = none) ∧
      ∀ name settings fresh, ofName name settings = .ok fresh → fresh.name = o.name →
        fresh.hyperparameters = o.hyperparameters → ∀ updates,
          ((o.forget id).outcomes updates).filter (·.1 == id) =
              (fresh.outcomes updates).filter (·.1 == id) ∧
            Agree id ((o.forget id).afterUpdates updates) (fresh.afterUpdates updates) := by
  refine ⟨?_, ?_, ?_, ?_⟩
  · exact fun other hother => o.count_forget hother
  · intro other hother hunder
    have hagree : Agree other (o.forget id) o := o.agree_forget hother hunder
    exact ⟨hagree, hagree.same_outcomes⟩
  · exact fun other hunder part hpart => o.lookup_forget_eq_none (Or.inr hunder) hpart
  · intro name settings fresh hmade hname hsettings
    exact ((anew_ofName ho hmade hname hsettings).agree id).same_outcomes

/-! ## A trial -/

/-- Settings with which an optimizer keeps a velocity and calculates with whole numbers. -/
def rollingSettings : List (String × Value) :=
  [("learning_rate", .int 1), ("rescale_grad", .int 1), ("momentum", .int 1),
    ("weight_decay", .int 0)]

/-- An optimizer with these settings. -/
def rolling : Optimizer :=
  { sgd with rule := .sgd (.int 1) (.int 0), rate := .int 1, rescale := .int 1 }

theorem ofName_rolling : ofName "sgd" rollingSettings = .ok rolling := by rfl

/-- An update that makes or changes the velocity of a parameter. -/
def pushOf (id : String) : Update := ⟨id, .zeros .int64 [1], .ones .int64 [1]⟩

/-- The optimizer when each of these parameters has a velocity. -/
def rolledBy (ids : List String) : Optimizer := rolling.afterUpdates (ids.map pushOf)

theorem forgets_own_and_under_rolled :
    let o := rolledBy ["w", "wide", "w_b"]
    ((o.forget "w").outcomes [pushOf "wide", pushOf "w_b"]).filter (·.1 == "wide") =
        (o.outcomes [pushOf "wide", pushOf "w_b"]).filter (·.1 == "wide") ∧
      (o.forget "w").state.lookup (key "w_b" "velocity") = none ∧
      ((o.forget "w").outcomes [pushOf "w", pushOf "w"]).filter (·.1 == "w") =
        (rolling.outcomes [pushOf "w", pushOf "w"]).filter (·.1 == "w") := by
  intro o
  have ho : o.Sane := ⟨by decide +kernel, by decide +kernel⟩
  obtain ⟨-, hkept, hlost, hanew⟩ := forgets_own_and_under ho "w"
  refine ⟨?_, ?_, ?_⟩
  · exact ((hkept "wide" (by decide) (by decide)).2 _).1
  · exact hlost "w_b" (by decide) "velocity" (by decide)
  · exact (hanew "sgd" rollingSettings rolling ofName_rolling (by decide +kernel) (by rfl) _).1

/-- The parameter `w_b` is another one than `w`, but loses its velocity with it, and so a later
update of it has another outcome. -/
theorem forgotten_with_another :
    let o := rolledBy ["w_b"]
    "w_b" ≠ "w" ∧ o.state.lookup (key "w_b" "velocity") = some (.ones .int64 [1]) ∧
      (o.forget "w").state.lookup (key "w_b" "velocity") = none ∧
      (o.forget "w").outcomes [pushOf "w_b"] ≠ o.outcomes [pushOf "w_b"] := by
  intro o
  refine ⟨by decide, by decide +kernel, by decide +kernel, fun hsame => ?_⟩
  have hweights := congrArg (List.map fun outcome => outcome.2.toOption) hsame
  revert hweights
  decide +kernel

end Optimizer

end DataParallel

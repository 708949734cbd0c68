import DataParallel.Proofs.Config.Valid
import DataParallel.Proofs.Host.Evolution
import DataParallel.Proofs.Server.StartingOver

/-!
# Optimizers of configurations

An optimizer that is made from a configuration has the usual settings of its rule, with those in
their place that the configuration gives.  The rule is chosen by the name in lower case, but the
settings are looked up under the name as it is spelled, so that the settings for the rule reach the
optimizer if the name is spelled like the rule, as validation demands.
-/

namespace DataParallel

open Step

namespace Optimizer

variable {o : Optimizer}

/-- The optimizer with the usual settings of a rule. -/
def usual (name : String) : Optimizer := if name = "sgd" then sgd else adam

/-- A new optimizer with the usual settings of its rule but for those that are given, all of which
are settings of the rule. -/
structure Overridden (o : Optimizer) (given : List (Value × Value)) : Prop where
  fresh : o.Fresh
  settings : ∃ settings : List (String × Value),
    given.map (fun entry => (entry.1.text?, entry.2)) =
      settings.map (fun entry => (some entry.1, entry.2)) ∧
    (∀ entry ∈ settings, entry.1 ∈ (usual o.name).hyperparameters.map Prod.fst) ∧
    o.hyperparameters = (usual o.name).hyperparameters.map
      fun h => (h.1, (settings.reverse.lookup h.1).getD h.2)

/-! ## The last setting counts -/

/-- A setting takes the place of the one of its name. -/
theorem hyperparameters_set {name : String} (hname : name ∈ o.hyperparameters.map Prod.fst)
    (v : Value) :
    (o.set name v).hyperparameters =
      o.hyperparameters.map fun h => (h.1, if h.1 = name then v else h.2) := by
  rw [hyperparameters, List.map_append, List.mem_append] at hname
  cases hrule : o.rule with
  | sgd momentum decay =>
    simp only [hrule, List.map_cons, List.map_nil, List.mem_cons, List.not_mem_nil, or_false]
      at hname
    rcases hname with (rfl | rfl | rfl) | rfl | rfl
    all_goals simp [set, Rule.set, operations, hyperparameters, hrule]
  | adam beta₁ beta₂ epsilon =>
    simp only [hrule, List.map_cons, List.map_nil, List.mem_cons, List.not_mem_nil, or_false]
      at hname
    rcases hname with (rfl | rfl | rfl) | rfl | rfl | rfl
    all_goals simp [set, Rule.set, operations, hyperparameters, hrule]

/-- After settings one after the other: the last one of a name, if any, or else what was there. -/
theorem hyperparameters_foldl_set {settings : List (String × Value)}
    (hnames : ∀ h ∈ settings, h.1 ∈ o.hyperparameters.map Prod.fst) :
    (settings.foldl (fun o h => o.set h.1 h.2) o).hyperparameters =
      o.hyperparameters.map fun h => (h.1, (settings.reverse.lookup h.1).getD h.2) := by
  induction settings generalizing o with
  | nil => simp
  | cons entry rest ih =>
    obtain ⟨name, v⟩ := entry
    obtain ⟨hname, hrest⟩ := List.forall_mem_cons.mp hnames
    have hset := hyperparameters_set hname v
    rw [List.foldl_cons, ih, hset, List.map_map]
    · apply List.map_congr_left
      rintro ⟨n, w⟩ -
      simp only [Function.comp_apply, List.reverse_cons, List.lookup_append]
      cases rest.reverse.lookup n with
      | some u => simp
      | none =>
        rw [Option.none_or, Keyed.lookup_cons_eq]
        split <;> rfl
    · intro h hh
      rw [hset, List.map_map]
      exact hrest h hh

theorem name_set (o : Optimizer) (name : String) (v : Value) : (o.set name v).name = o.name := by
  obtain ⟨rule, rate, rescale, clip, counts, state, otherCounts, taken⟩ := o
  rw [set]
  repeat' split
  any_goals rfl
  cases rule with
  | sgd momentum decay =>
    dsimp only
    rw [Rule.set]
    repeat' split
    all_goals rfl
  | adam beta₁ beta₂ epsilon =>
    dsimp only
    rw [Rule.set]
    repeat' split
    all_goals rfl

theorem configured_eq_ok {o' : Optimizer} {settings : List (String × Value)}
    (h : o.configured settings = .ok o') :
    o'.name = o.name ∧ (∀ entry ∈ settings, entry.1 ∈ o.hyperparameters.map Prod.fst) ∧
      o'.hyperparameters =
        o.hyperparameters.map fun h => (h.1, (settings.reverse.lookup h.1).getD h.2) := by
  have hname : o'.name = o.name :=
    configured_induction (P := fun p => p.name = o.name)
      (fun p name v _ hp => (p.name_set name v).trans hp) rfl h
  rw [configured] at h
  split at h
  · next hall =>
    have hnames : ∀ entry ∈ settings, entry.1 ∈ o.hyperparameters.map Prod.fst := by
      intro entry hentry
      obtain ⟨known, hknown, hsame⟩ := List.any_eq_true.mp (List.all_eq_true.mp hall entry hentry)
      rw [← beq_iff_eq.mp hsame]
      exact List.mem_map_of_mem hknown
    rw [← eq_of_checked h] at hname ⊢
    exact ⟨hname, hnames, hyperparameters_foldl_set hnames⟩
  · cases h

/-- The rule is that of the name in lower case. -/
theorem configured_of_ofName {name : String} {settings : List (String × Value)}
    (h : ofName name settings = .ok o) :
    String.ofList (Text.lower name.toList) = o.name ∧
      (usual o.name).configured settings = .ok o := by
  rw [ofName] at h
  split at h
  · cases h
  · split at h
    · next hlower =>
      obtain ⟨hname, -⟩ := configured_eq_ok h
      rw [hlower, hname]
      exact ⟨rfl, h⟩
    · next hlower =>
      obtain ⟨hname, -⟩ := configured_eq_ok h
      rw [hlower, hname]
      exact ⟨rfl, h⟩
    · cases h

end Optimizer

namespace Config

variable {c : Config} {o : Optimizer}

theorem mapM_text_eq_ok {given : List (Value × Value)} {settings : List (String × Value)}
    (h : (given.mapM fun (k, v) =>
      match k.text? with
      | some name => Except.ok (name, v)
      | none => Except.error Fault.wrongType) = .ok settings) :
    given.map (fun entry => (entry.1.text?, entry.2)) =
      settings.map fun entry => (some entry.1, entry.2) := by
  induction given generalizing settings with
  | nil =>
    obtain rfl := Except.ok.inj h
    rfl
  | cons entry rest ih =>
    obtain ⟨key, v⟩ := entry
    rw [List.mapM_cons] at h
    obtain ⟨first, hfirst, h⟩ := exists_of_bind_eq_ok h
    obtain ⟨later, hlater, h⟩ := exists_of_bind_eq_ok h
    obtain rfl := Except.ok.inj h
    dsimp only at hfirst
    split at hfirst
    · next name hname =>
      obtain rfl := Except.ok.inj hfirst
      rw [List.map_cons, List.map_cons, hname, ih hlater]
    · cases hfirst

theorem eq_text_of_same {v : Value} {name : String} (h : v.same (.text name) = true) :
    v = .text name := by
  cases v with
  | text s => rw [beq_iff_eq.mp h]
  | _ => cases h

/-- The names of the rules are in lower case. -/
theorem lower_eq_of_valid (h : c.validate = .ok ()) {spelling : String}
    (hspelling : c.optimizer.text? = some spelling) :
    c.optimizer = .text (String.ofList (Text.lower spelling.toList)) := by
  obtain ⟨name, hname, hsame⟩ := List.any_eq_true.mp (validate_eq_ok_iff.mp h).optimizer
  have htext := eq_text_of_same hsame
  rw [htext] at hspelling ⊢
  obtain rfl := Option.some.inj hspelling
  rw [List.mem_cons, List.mem_singleton] at hname
  rcases hname with rfl | rfl
  · rfl
  · rfl

/-- The usual settings are those of the optimizer that is named. -/
theorem optimizerConfig_optimizer (c : Config) :
    c.optimizerConfig c.optimizer = c.optimizerConfig := by
  have hnull : ¬Value.null.truthy = true := nofun
  rw [optimizerConfig, optimizerConfig, ite_self, if_neg hnull]

/-- An optimizer that is made from a configuration follows the rule that the name in lower case
tells, and its usual settings are overridden by all that the configuration gives under the name as
it is spelled.  These are the settings for the rule if the name is spelled like the rule, as it is
in every validated configuration.  A server that is started with the optimizer has it as it is. -/
theorem makeOptimizer_overridden (h : c.makeOptimizer = .ok o) :
    ∃ spelling given, c.optimizer.text? = some spelling ∧
      String.ofList (Text.lower spelling.toList) = o.name ∧
      c.optimizerConfig = .ok given ∧ o.Overridden given ∧
      (c.optimizer = .text o.name ∨ c.validate = .ok () →
        c.optimizerConfig (.text o.name) = .ok given) ∧
      ∀ host, ∃ k, (LocalServer.start o).runFrom host = (.ok (LocalServer.new o), k) := by
  rw [makeOptimizer] at h
  obtain ⟨given, hgiven, h⟩ := exists_of_bind_eq_ok h
  obtain ⟨settings, hsettings, h⟩ := exists_of_bind_eq_ok h
  rw [Optimizer.ofValue] at h
  split at h
  · next spelling hspelling =>
    obtain ⟨hlower, hconfigured⟩ := Optimizer.configured_of_ofName h
    obtain ⟨-, hnames, hvalues⟩ := Optimizer.configured_eq_ok hconfigured
    refine ⟨spelling, given, hspelling, hlower, hgiven,
      ⟨Optimizer.fresh_ofName h, settings, mapM_text_eq_ok hsettings, hnames, hvalues⟩, ?_, ?_⟩
    · intro hspelled
      have hname : c.optimizer = .text o.name := by
        rcases hspelled with hname | hvalid
        · exact hname
        · rw [lower_eq_of_valid hvalid hspelling, hlower]
      rw [← hname, optimizerConfig_optimizer, hgiven]
    · intro host
      obtain ⟨k, -, hlogger⟩ := Host.exists_openLogger LocalServer.component host
      refine ⟨k, ?_⟩
      rw [LocalServer.start, runFrom_bind_of_ok hlogger]
      rfl
  · split at h
    · cases h
    · cases h

theorem makeOptimizer_overridden_adam :
    ∃ (c : Config) (o : Optimizer), c.optimizer = .text "adam" ∧ c.makeOptimizer = .ok o ∧
      o.Overridden [(.text "beta1", .float 0.5), (.text "clip_grad", .int 1)] ∧
      c.optimizerConfig (.text o.name) =
        .ok [(.text "beta1", .float 0.5), (.text "clip_grad", .int 1)] := by
  let c : Config := { Config.usual with
    optimizer := .text "adam"
    optimizerConfigs := .record [(.text "adam", .record
      [(.text "beta1", .float 0.5), (.text "clip_grad", .int 1)])] }
  obtain ⟨o, ho⟩ : ∃ o, c.makeOptimizer = .ok o := ⟨_, rfl⟩
  obtain ⟨spelling, given, hspelling, hlower, hgiven, hoverridden, hspelled, -⟩ :=
    makeOptimizer_overridden ho
  obtain rfl := Except.ok.inj hgiven
  obtain rfl := Option.some.inj hspelling
  exact ⟨c, o, rfl, ho, hoverridden, hspelled (Or.inr (by rfl))⟩

/-- Under the name in capitals the settings for the rule are not found, and the optimizer is made
with the usual ones. -/
theorem settings_missed :
    ∃ (c : Config) (o : Optimizer), c.optimizer = .text "SGD" ∧
      c.optimizerConfig (.text "sgd") = .ok [(.text "learning_rate", .float 0.5)] ∧
      c.makeOptimizer = .ok o ∧ o.name = "sgd" ∧
      o.hyperparameters.lookup "learning_rate" = some (.float 0.01) := by
  let c : Config := { Config.usual with
    optimizer := .text "SGD"
    optimizerConfigs := .record
      [(.text "sgd", .record [(.text "learning_rate", .float 0.5)])] }
  exact ⟨c, Optimizer.sgd, rfl, rfl, rfl, rfl, rfl⟩

end Config

end DataParallel

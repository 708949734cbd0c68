import DataParallel.Proofs.Optimizer.StateType
import DataParallel.Proofs.Server.Refinement

/-!
# The element types of masters

The state arrays of a parameter stay in the element type that the parameter was registered in, for
good.  A master stays a float if it was registered as one, whatever the types of the gradients are;
otherwise it is not a float before its first update, and it becomes one with this update if the
learning rate is a float.  So a parameter that is registered as whole numbers has state arrays of
whole numbers, and they lose the fractions.
-/

namespace DataParallel

open Step

namespace LocalServer

/-- The contents that the parameters are registered with, after one more request. -/
def Exchange.enrolls (firsts : String → Option Tensor) (e : Exchange) : String → Option Tensor :=
  match e.request with
  | .close => fun _ => none
  | .init id (first :: _) => fun name =>
    if name = id then (firsts id).or (e.host.pool.contents? first) else firsts name
  | _ => firsts

/-- The contents of the first array of a parameter since the server was closed. -/
def enrolled (log : List Exchange) : String → Option Tensor :=
  log.foldl Exchange.enrolls fun _ => none

/-- A server that was started with an optimizer holds its parameters in the types that they were
registered in: the state arrays exactly, and each master until all state arrays of the rule are
there; from then on the master is a float if it was registered as one or the rate is a float. -/
structure Typed (o : Optimizer) (firsts : String → Option Tensor) (v : LocalServer) : Prop where
  settings : o.SameSettings v.optimizer
  regular : v.optimizer.Regular
  unknown : ∀ id, v.get? id = none → firsts id = none
  state : ∀ id, ∀ part ∈ Optimizer.parts, ∀ t,
    v.optimizer.state.lookup (Optimizer.key id part) = some t →
      (firsts id).map Tensor.dtype = some t.dtype
  master : ∀ id m, v.get? id = some m → ∃ first, firsts id = some first ∧
    (m.dtype = first.dtype ∨ v.optimizer.Filled id ∧
      (first.IsFloat ∨ (∃ x, o.rate = .float x) → m.IsFloat))

section Calls

variable {o : Optimizer} {firsts : String → Option Tensor} {v w : LocalServer} {id : String}

theorem Typed.new (hregular : o.Regular) (hstate : o.state = []) :
    Typed o (fun _ => none) (LocalServer.new o) := by
  refine ⟨rfl, hregular, fun _ _ => rfl, fun id part _ t ht => ?_, fun id m hm => ?_⟩
  · have hnone : o.state.lookup (Optimizer.key id part) = none := by
      rw [hstate]
      rfl
    exact absurd (hnone.symm.trans ht) (Option.some_ne_none t).symm
  · cases hm

theorem Typed.close (h : Typed o firsts v) : Typed o (fun _ => none) v.close := by
  refine ⟨h.settings, .of_unused h.regular.sane.reset rfl rfl, fun _ _ => rfl,
    fun id part _ t ht => ?_, fun id m hm => ?_⟩
  · cases ht
  · cases hm

/-- Nothing but the optimizer and the masters matters. -/
theorem Typed.same (h : Typed o firsts v) (hoptimizer : w.optimizer = v.optimizer)
    (hget : ∀ name, w.get? name = v.get? name) : Typed o firsts w := by
  constructor
  · rw [hoptimizer]
    exact h.settings
  · rw [hoptimizer]
    exact h.regular
  · intro name hname
    rw [hget] at hname
    exact h.unknown name hname
  · rw [hoptimizer]
    exact h.state
  · intro name m hm
    rw [hget] at hm
    rw [hoptimizer]
    exact h.master name m hm

/-! ### Init -/

/-- A parameter is registered once. -/
theorem Typed.learns {t : Option Tensor} (h : Typed o firsts v) (hlearns : Learns id t v w) :
    Typed o (fun name => if name = id then (firsts id).or t else firsts name) w := by
  have hgrows : ∀ {name first}, firsts name = some first →
      (if name = id then (firsts id).or t else firsts name) = some first := by
    intro name first hfirst
    by_cases hname : name = id
    · rw [if_pos hname, ← hname, hfirst]
      rfl
    · rw [if_neg hname, hfirst]
  have hkept : ∀ {name m}, v.get? name = some m → ∃ first,
      (if name = id then (firsts id).or t else firsts name) = some first ∧
        (m.dtype = first.dtype ∨ v.optimizer.Filled name ∧
          (first.IsFloat ∨ (∃ x, o.rate = .float x) → m.IsFloat)) := by
    intro name m hm
    obtain ⟨first, hfirst, htype⟩ := h.master name m hm
    exact ⟨first, hgrows hfirst, htype⟩
  constructor
  · rw [hlearns.optimizer]
    exact h.settings
  · rw [hlearns.optimizer]
    exact h.regular
  · intro name hnone
    by_cases hname : name = id
    · subst hname
      rw [hlearns.master, Option.or_eq_none_iff] at hnone
      rw [if_pos rfl, h.unknown name hnone.1, hnone.2]
      rfl
    · rw [hlearns.others name hname] at hnone
      rw [if_neg hname, h.unknown name hnone]
  · intro name part hpart u hu
    rw [hlearns.optimizer] at hu
    obtain ⟨first, hfirst, hdtype⟩ := Option.map_eq_some_iff.mp (h.state name part hpart u hu)
    rw [hgrows hfirst, Option.map_some, hdtype]
  · intro name m hm
    rw [hlearns.optimizer]
    by_cases hname : name = id
    · subst hname
      rw [hlearns.master] at hm
      rcases hknown : v.get? name with _ | m'
      · rw [hknown, Option.none_or] at hm
        refine ⟨m, ?_, Or.inl rfl⟩
        rw [if_pos rfl, h.unknown name hknown, hm]
        rfl
      · rw [hknown] at hm
        obtain rfl : m' = m := Option.some.inj hm
        exact hkept hknown
    · rw [hlearns.others name hname] at hm
      exact hkept hm

/-! ### Pull -/

/-- State arrays keep their types, and one that is made has the type of the parameter: the master
is as it was registered as long as a state array is missing. -/
theorem Typed.state_after (h : Typed o firsts v) {m : Tensor} (hm : v.get? id = some m)
    (grad : Tensor) {part : String} (hpart : part ∈ Optimizer.parts) {t : Tensor}
    (ht : (Optimizer.Update.after v.optimizer ⟨id, m, grad⟩).state.lookup
      (Optimizer.key id part) = some t) :
    (firsts id).map Tensor.dtype = some t.dtype := by
  rcases h.regular.dtype_after ⟨id, m, grad⟩ ht with ⟨old, hold, hdtype⟩ | ⟨hslot, hnone, hdtype⟩
  · rw [hdtype]
    exact h.state id part hpart old hold
  · obtain ⟨first, hfirst, htype⟩ := h.master id m hm
    have hsame : m.dtype = first.dtype := by
      refine htype.resolve_right fun hfilled => ?_
      have hsome := hfilled.1 part hslot
      rw [hnone] at hsome
      cases hsome
    rw [hdtype, hfirst, hsame]
    rfl

/-- The result of an update, or the master as it was if the update has failed. -/
theorem Typed.master_after (h : Typed o firsts v) {m : Tensor} (hm : v.get? id = some m)
    (grad : Tensor) {m' : Tensor}
    (hm' : ((Optimizer.update id m grad).runFrom v.optimizer).1.toOption.getD m = m') :
    ∃ first, firsts id = some first ∧ (m'.dtype = first.dtype ∨
      (Optimizer.Update.after v.optimizer ⟨id, m, grad⟩).Filled id ∧
        (first.IsFloat ∨ (∃ x, o.rate = .float x) → m'.IsFloat)) := by
  obtain ⟨first, hfirst, htype⟩ := h.master id m hm
  refine ⟨first, hfirst, ?_⟩
  have hfilled := h.regular.filled_after ⟨id, m, grad⟩
  rcases hrun : (Optimizer.update id m grad).runFrom v.optimizer with ⟨fault | r, o'⟩
  · rw [hrun] at hm'
    obtain rfl : m = m' := hm'
    refine htype.imp_right fun hbefore => ⟨?_, hbefore.2⟩
    rcases hfilled with hfilled | ⟨hstate, -⟩
    · exact hfilled
    · intro part hpart
      rw [(Optimizer.settings_after v.optimizer ⟨id, m, grad⟩).rule_eq] at hpart
      rw [hstate]
      exact hbefore.1 part hpart
  · have hok : (Optimizer.Update.step ⟨id, m, grad⟩).runFrom v.optimizer = (.ok r, o') := hrun
    rw [hok] at hfilled
    rw [hrun] at hm'
    obtain rfl : r = m' := hm'
    refine Or.inr ⟨hfilled.resolve_right ?_, fun hfloat => ?_⟩
    · rintro ⟨-, fault, hfault⟩
      cases hfault
    · apply Optimizer.isFloat_update hrun
      rw [h.settings.rate_eq]
      rcases hfloat with hfloat | hrate
      · left
        rcases htype with hsame | ⟨-, hmaster⟩
        · rwa [Tensor.IsFloat, hsame]
        · exact hmaster (Or.inl hfloat)
      · exact Or.inr hrate

/-- The update of one parameter leaves the others alone. -/
theorem Typed.updated (h : Typed o firsts v) {m grad : Tensor} (hm : v.get? id = some m)
    (hoptimizer : w.optimizer = Optimizer.Update.after v.optimizer ⟨id, m, grad⟩)
    (hmaster : w.get? id =
      some (((Optimizer.update id m grad).runFrom v.optimizer).1.toOption.getD m))
    (hothers : ∀ name, name ≠ id → w.get? name = v.get? name) : Typed o firsts w := by
  have hsettings : v.optimizer.SameSettings w.optimizer := by
    rw [hoptimizer]
    exact Optimizer.settings_after v.optimizer ⟨id, m, grad⟩
  have hagree : ∀ {name}, name ≠ id → Optimizer.Agree name v.optimizer w.optimizer := by
    intro name hname
    rw [hoptimizer]
    exact Optimizer.along_update (Ne.symm hname) m grad v.optimizer
  constructor
  · exact IsTrans.trans (r := Optimizer.SameSettings) _ _ _ h.settings hsettings
  · rw [hoptimizer]
    exact h.regular.after _
  · intro name hname
    by_cases hid : name = id
    · rw [hid, hmaster] at hname
      cases hname
    · rw [hothers name hid] at hname
      exact h.unknown name hname
  · intro name part hpart t ht
    by_cases hid : name = id
    · subst hid
      rw [hoptimizer] at ht
      exact h.state_after hm grad hpart ht
    · rw [← (hagree hid).state part hpart] at ht
      exact h.state name part hpart t ht
  · intro name m' hm'
    by_cases hid : name = id
    · subst hid
      rw [hmaster] at hm'
      rw [hoptimizer]
      exact h.master_after hm grad (Option.some.inj hm')
    · rw [hothers name hid] at hm'
      obtain ⟨first, hfirst, htype⟩ := h.master name m' hm'
      refine ⟨first, hfirst, htype.imp_right fun hfilled => ?_⟩
      exact ⟨hfilled.1.agree (hagree hid), hfilled.2⟩

theorem Typed.settled (h : Typed o firsts v) {t : Tensor} (hsettled : Settled id t v w) :
    Typed o firsts w := by
  obtain ⟨m, hm, hnext⟩ := hsettled.update
  rcases hgrad : v.pending.lookup id with _ | grad
  · rw [hgrad] at hnext
    obtain ⟨hresult, hoptimizer⟩ := Prod.mk.inj hnext
    apply h.same hoptimizer.symm
    intro name
    by_cases hname : name = id
    · rw [hname, hsettled.master, hm, Except.ok.inj hresult]
    · exact (hsettled.others name hname).1
  · rw [hgrad] at hnext
    have hupdate : (Optimizer.update id m grad).runFrom v.optimizer = (.ok t, w.optimizer) := hnext
    apply h.updated hm (congrArg Prod.snd hupdate).symm
    · rw [hupdate]
      exact hsettled.master
    · exact fun name hname => (hsettled.others name hname).1

theorem Typed.pull {x : LocalServer × Host} (h : Typed o firsts x.1) (id : String)
    (weights : List ArrayId) : Typed o firsts ((LocalServer.pull id weights).runFrom x).2.1 := by
  rcases hrun : (LocalServer.pull id weights).runFrom x with ⟨fault | _, y⟩
  · rcases pull_error_cases hrun with ⟨-, -, hsame⟩ |
      ⟨m, grad, o', counters, hm, -, hupdate, rfl⟩ | ⟨done, a, rest, w, -, hpulled, -⟩
    · rw [hsame]
      exact h
    · apply h.updated hm (congrArg Prod.snd hupdate).symm
      · rw [hupdate]
        exact hm
      · exact fun _ _ => rfl
    · obtain ⟨t, hsettled, -⟩ := pull_ok hpulled
      exact h.settled hsettled
  · obtain ⟨t, hsettled, -⟩ := pull_ok hrun
    exact h.settled hsettled

/-! ### Any request -/

/-- One more request, whether it succeeds or fails. -/
theorem Typed.request {x : LocalServer × Host} (h : Typed o firsts x.1) (r : Request) :
    Typed o (Exchange.enrolls firsts ⟨r, x.2, (r.step.runFrom x).1⟩) (r.step.runFrom x).2.1 := by
  cases r with
  | init id arrays =>
    rcases arrays with _ | ⟨a, rest⟩
    · exact h
    · obtain ⟨r, w, k, hinit, -, hlearns, -⟩ := runFrom_init id a rest x.1 x.2
      have hserver : ((LocalServer.init id (a :: rest)).runFrom x).2.1 = w := by
        rw [hinit]
      rw [Request.step, hserver]
      exact h.learns hlearns
  | push id gradients priority =>
    rcases hrun : (LocalServer.push id gradients priority).runFrom x with ⟨fault | _, y⟩
    · obtain ⟨counters, hy⟩ := push_error hrun
      rw [Request.step, hrun, hy]
      exact h.same rfl fun _ => rfl
    · obtain ⟨-, -, hgathered⟩ := push_ok hrun
      rw [Request.step, hrun]
      exact h.same hgathered.optimizer hgathered.get?
  | pull id weights => exact h.pull id weights
  | close => exact h.close

end Calls

theorem Session.typed {o : Optimizer} {h : Host} {log : List Exchange} {x : LocalServer × Host}
    (hregular : o.Regular) (hstate : o.state = [])
    (hsession : Session (LocalServer.new o, h) log x) : Typed o (enrolled log) x.1 := by
  induction hsession with
  | nil => exact .new hregular hstate
  | @call log x before r ih =>
    have hafter := ih.request r
    rw [enrolled, List.foldl_append]
    exact hafter
  | elsewhere before evolved ih => exact ih

/-- An optimizer that adds up the gradients and moves the weight by the sum. -/
def rolling : Optimizer :=
  { Optimizer.sgd with rule := .sgd (.int 1) (.int 0), rate := .int 1, rescale := .int 1 }

/-- A weight is registered and updated with a gradient. -/
def rolled (weight grad : Tensor) : List Exchange × LocalServer × Host :=
  perform (LocalServer.new rolling, hostWith [weight, grad])
    [.init "weight" [⟨0⟩], .push "weight" [⟨1⟩] 0, .pull "weight" [⟨0⟩]]

end LocalServer

end DataParallel

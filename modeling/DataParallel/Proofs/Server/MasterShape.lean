import DataParallel.Proofs.Optimizer.WeightShape
import DataParallel.Proofs.Server.FailedCall

/-!
# The shapes of masters

A master keeps the shape of the array that it was registered under, through failing calls as well,
if the rule of the optimizer carries state arrays, or if no gradient is of a shape beyond that of
its weight.  Then a pull into arrays of this shape cannot fail at an array.  Plain gradient descent
has no such safeguard: a wider gradient widens the master, and the arrays of the parameter no
longer take it.
-/

namespace DataParallel

open Step

namespace LocalServer

/-- The shapes under which the parameters are registered, after one more request. -/
def Exchange.registers (shapes : String → Option Shape) (e : Exchange) : String → Option Shape :=
  match e.request with
  | .close => fun _ => none
  | .init id (first :: _) => fun name =>
    if name = id then (shapes id).or ((e.host.pool.contents? first).map Tensor.shape)
    else shapes name
  | _ => shapes

/-- The shape of the first array of a parameter since the server was closed. -/
def registered (log : List Exchange) : String → Option Shape :=
  log.foldl Exchange.registers fun _ => none

/-- The request pushes no gradient of a shape beyond that of its weight. -/
def Exchange.Narrow (shapes : String → Option Shape) (e : Exchange) : Prop :=
  ∀ id gradients priority, e.request = .push id gradients priority → ∀ g ∈ gradients, ∀ t s,
    e.host.pool.contents? g = some t → shapes id = some s → t.shape.Within s

/-- No gradient of the session was of a shape beyond that of its weight. -/
def Narrow (log : List Exchange) : Prop :=
  ∀ before e after, log = before ++ e :: after → e.Narrow (registered before)

theorem Narrow.append {log : List Exchange} {e : Exchange} (h : Narrow (log ++ [e])) :
    Narrow log ∧ e.Narrow (registered log) := by
  constructor
  · intro before e' after hlog
    apply h before e' (after ++ [e])
    rw [hlog, List.append_assoc, List.cons_append]
  · exact h log e [] rfl

/-- The server fits the shapes of its parameters: its masters have them, and its state arrays; and
so do the gradients that wait, if the rule does not take care of them. -/
structure Fitted (rule : Rule) (shapes : String → Option Shape) (v : LocalServer) : Prop where
  ruled : v.optimizer.rule = rule
  plain : ∀ h ∈ v.optimizer.hyperparameters, h.2.isSequence = false
  master : ∀ id, (v.get? id).map Tensor.shape = shapes id
  state : ∀ id, ∀ part ∈ Optimizer.parts, ∀ t,
    v.optimizer.state.lookup (Optimizer.key id part) = some t → shapes id = some t.shape
  pending : ∀ id t, v.pending.lookup id = some t →
    ∃ s, shapes id = some s ∧ (rule.carries = true ∨ t.shape.Within s)

section Calls

variable {rule : Rule} {shapes : String → Option Shape} {v w : LocalServer} {id : String}

theorem Fitted.new {o : Optimizer} (hstate : o.state = [])
    (hplain : ∀ h ∈ o.hyperparameters, h.2.isSequence = false) :
    Fitted o.rule (fun _ => none) (LocalServer.new o) := by
  refine ⟨rfl, hplain, fun _ => rfl, fun id part _ t ht => ?_, fun id t ht => ?_⟩
  · have hnone : o.state.lookup (Optimizer.key id part) = none := by
      rw [hstate]
      rfl
    exact absurd (hnone.symm.trans ht) (Option.some_ne_none t).symm
  · cases ht

theorem Fitted.close (h : Fitted rule shapes v) : Fitted rule (fun _ => none) v.close := by
  refine ⟨h.ruled, h.plain, fun _ => rfl, fun id part _ t ht => ?_, fun id t ht => ?_⟩
  · cases ht
  · cases ht

/-- Counting a call changes nothing. -/
theorem Fitted.counted (h : Fitted rule shapes v) (counters : ServerCounters) :
    Fitted rule shapes { v with counters := counters } :=
  ⟨h.ruled, h.plain, h.master, h.state, h.pending⟩

/-! ### Init -/

theorem Fitted.learns {t : Option Tensor} (h : Fitted rule shapes v) (hlearns : Learns id t v w) :
    Fitted rule (fun name => if name = id then (shapes id).or (t.map Tensor.shape)
      else shapes name) w := by
  have hgrows : ∀ {name s}, shapes name = some s →
      (if name = id then (shapes id).or (t.map Tensor.shape) else shapes name) = some s := by
    intro name s hs
    by_cases hname : name = id
    · rw [if_pos hname, ← hname, hs]
      rfl
    · rw [if_neg hname, hs]
  constructor
  · rw [hlearns.optimizer]
    exact h.ruled
  · rw [hlearns.optimizer]
    exact h.plain
  · intro name
    by_cases hname : name = id
    · subst hname
      rw [if_pos rfl, hlearns.master, ← h.master name]
      rcases v.get? name with _ | m
      · rfl
      · rfl
    · rw [if_neg hname, hlearns.others name hname, h.master name]
  · intro name part hpart u hu
    rw [hlearns.optimizer] at hu
    exact hgrows (h.state name part hpart u hu)
  · intro name u hu
    rw [hlearns.pending] at hu
    obtain ⟨s, hs, hfits⟩ := h.pending name u hu
    exact ⟨s, hgrows hs, hfits⟩

/-! ### Push -/

theorem within_due {pending : Option Tensor} {grads : List Tensor} {t : Tensor} {s : Shape}
    (hpending : ∀ u, pending = some u → u.shape.Within s) (hgrads : ∀ u ∈ grads, u.shape.Within s)
    (hdue : due pending grads = .ok (some t)) : t.shape.Within s := by
  obtain ⟨sum, hsum, hmerged⟩ := exists_of_bind_eq_ok hdue
  have hwithin : ∀ u, sum = some u → u.shape.Within s := by
    rintro u rfl
    apply Optimizer.sum?_induction _ hgrads hsum
    exact fun _ _ _ => Tensor.shape_combine_within
  rcases pending with _ | old
  · rcases sum with _ | u
    · cases hmerged
    · obtain rfl : u = t := Option.some.inj (Except.ok.inj hmerged)
      exact hwithin u rfl
  · rcases sum with _ | u
    · obtain rfl : old = t := Option.some.inj (Except.ok.inj hmerged)
      exact hpending old rfl
    · rcases hadd : old.combine .add u with fault | r
      · rw [merged, hadd] at hmerged
        cases hmerged
      · rw [merged, hadd] at hmerged
        obtain rfl : r = t := Option.some.inj (Except.ok.inj hmerged)
        exact Tensor.shape_combine_within (hpending old rfl) (hwithin u rfl) hadd

theorem Fitted.gathered {grads : List Tensor} {priority : Int} (h : Fitted rule shapes v)
    (hgathered : Gathered id grads priority v w)
    (hfits : rule.carries = true ∨ ∀ s, shapes id = some s → ∀ u ∈ grads, u.shape.Within s) :
    Fitted rule shapes w := by
  constructor
  · rw [hgathered.optimizer]
    exact h.ruled
  · rw [hgathered.optimizer]
    exact h.plain
  · intro name
    rw [hgathered.get?, h.master]
  · intro name part hpart u hu
    rw [hgathered.optimizer] at hu
    exact h.state name part hpart u hu
  · intro name u hu
    by_cases hname : name = id
    · subst hname
      obtain ⟨m, hm⟩ := Option.isSome_iff_exists.mp hgathered.known
      have hs : shapes name = some m.shape := by
        rw [← h.master name, hm]
        rfl
      refine ⟨m.shape, hs, ?_⟩
      by_cases hcarries : rule.carries = true
      · exact Or.inl hcarries
      · have hdue := hgathered.pending
        rw [hu] at hdue
        apply Or.inr
        apply within_due _ (hfits.resolve_left hcarries m.shape hs) hdue
        intro old hold
        obtain ⟨s, hs', hold'⟩ := h.pending name old hold
        obtain rfl : m.shape = s := Option.some.inj (hs.symm.trans hs')
        exact hold'.resolve_left hcarries
    · rw [(hgathered.others name hname).1] at hu
      exact h.pending name u hu

/-! ### Pull -/

theorem Fitted.shaped (h : Fitted rule shapes v) {m : Tensor} (hm : v.get? id = some m) :
    Optimizer.Shaped id rule m.shape v.optimizer := by
  refine ⟨h.ruled, h.plain, fun part hpart t ht => ?_⟩
  have hs := h.master id
  rw [hm, h.state id part hpart t ht] at hs
  exact (Option.some.inj hs).symm

/-- What an update leaves fits, whether it has succeeded or not. -/
theorem Fitted.of_update (h : Fitted rule shapes v) {m : Tensor} (hm : v.get? id = some m)
    (hshaped : Optimizer.Shaped id rule m.shape w.optimizer)
    (hagree : ∀ name, name ≠ id → Optimizer.Agree name v.optimizer w.optimizer)
    (hmaster : ∀ name, (w.get? name).map Tensor.shape = (v.get? name).map Tensor.shape)
    (hpending : ∀ name t, w.pending.lookup name = some t → v.pending.lookup name = some t) :
    Fitted rule shapes w := by
  constructor
  · exact hshaped.rule
  · exact hshaped.plain
  · intro name
    rw [hmaster, h.master]
  · intro name part hpart t ht
    by_cases hname : name = id
    · subst hname
      rw [hshaped.state part hpart t ht, ← h.master name, hm]
      rfl
    · rw [← (hagree name hname).state part hpart] at ht
      exact h.state name part hpart t ht
  · intro name t ht
    exact h.pending name t (hpending name t ht)

/-- The gradient that waits for a master keeps its shape. -/
theorem Fitted.fits (h : Fitted rule shapes v) {m grad : Tensor} (hm : v.get? id = some m)
    (hgrad : v.pending.lookup id = some grad) :
    rule.carries = true ∨ grad.shape.Within m.shape := by
  obtain ⟨s, hs, hfits⟩ := h.pending id grad hgrad
  rw [← h.master id, hm] at hs
  obtain rfl : m.shape = s := Option.some.inj hs
  exact hfits

theorem Fitted.settled (h : Fitted rule shapes v) {t : Tensor} (hsettled : Settled id t v w) :
    Fitted rule shapes w := by
  obtain ⟨m, hm, hnext⟩ := hsettled.update
  have hkeeps : Keeps (Optimizer.Shaped id rule m.shape)
      (Optimizer.advance id m (v.pending.lookup id)) fun t => t.shape = m.shape := by
    rcases hgrad : v.pending.lookup id with _ | grad
    · exact keeps_pure rfl
    · exact Optimizer.keeps_update rfl (h.fits hm hgrad)
  obtain ⟨hshaped, hshape⟩ := hkeeps v.optimizer (h.shaped hm)
  rw [hnext] at hshaped hshape
  apply h.of_update hm hshaped (fun name hname => hsettled.agree hname)
  · intro name
    by_cases hname : name = id
    · subst hname
      rw [hsettled.master, hm, Option.map_some, Option.map_some, hshape t rfl]
    · rw [(hsettled.others name hname).1]
  · intro name u hu
    by_cases hname : name = id
    · rw [hname, hsettled.taken] at hu
      cases hu
    · rwa [(hsettled.others name hname).2] at hu

theorem Fitted.refused (h : Fitted rule shapes v) {m grad : Tensor} {fault : Fault} {o : Optimizer}
    (hm : v.get? id = some m) (hgrad : v.pending.lookup id = some grad)
    (hupdate : (Optimizer.update id m grad).runFrom v.optimizer = (.error fault, o)) :
    Fitted rule shapes { v with pending := Keyed.drop id v.pending, optimizer := o } := by
  have hkeeps := Optimizer.keeps_update rfl (h.fits hm hgrad) v.optimizer (h.shaped hm)
  rw [hupdate] at hkeeps
  apply h.of_update hm hkeeps.1
  · exact fun name hname => (Optimizer.along_update (Ne.symm hname) m grad).of_run hupdate
  · exact fun _ => rfl
  · intro name u hu
    dsimp only at hu
    rw [Keyed.lookup_drop] at hu
    split at hu
    · cases hu
    · exact hu

/-! ### Any request -/

theorem Fitted.pull {x : LocalServer × Host} (h : Fitted rule shapes x.1) (id : String)
    (weights : List ArrayId) :
    Fitted rule shapes ((LocalServer.pull id weights).runFrom x).2.1 := by
  rcases hrun : (LocalServer.pull id weights).runFrom x with ⟨fault | _, y⟩
  · rcases pull_error_cases hrun with ⟨-, -, hsame⟩ |
      ⟨w, grad, o, counters, hw, hgrad, hupdate, rfl⟩ | ⟨done, a, rest, w, -, hpulled, -⟩
    · rw [hsame]
      exact h
    · exact (h.refused hw hgrad hupdate).counted counters
    · obtain ⟨t, hsettled, -⟩ := pull_ok hpulled
      exact h.settled hsettled
  · obtain ⟨t, hsettled, -⟩ := pull_ok hrun
    exact h.settled hsettled

/-- One more request, whether it succeeds or fails. -/
theorem Fitted.request {x : LocalServer × Host} (h : Fitted rule shapes x.1) (r : Request)
    (hfits : rule.carries = true ∨ Exchange.Narrow shapes ⟨r, x.2, (r.step.runFrom x).1⟩) :
    Fitted rule (Exchange.registers shapes ⟨r, x.2, (r.step.runFrom x).1⟩)
      (r.step.runFrom x).2.1 := by
  cases r with
  | init id arrays =>
    rcases arrays with _ | ⟨a, rest⟩
    · exact h
    · obtain ⟨r, w, k, hinit, -, hlearns, -⟩ := runFrom_init id a rest x.1 x.2
      have hserver : ((LocalServer.init id (a :: rest)).runFrom x).2.1 = w := by
        rw [hinit]
      rw [Request.step, hserver]
      exact h.learns hlearns
  | push id gradients priority =>
    rcases hrun : (LocalServer.push id gradients priority).runFrom x with ⟨fault | _, y⟩
    · obtain ⟨counters, hy⟩ := push_error hrun
      rw [Request.step, hrun, hy]
      exact h.counted counters
    · obtain ⟨-, -, hgathered⟩ := push_ok hrun
      rw [Request.step, hrun]
      apply h.gathered hgathered
      apply hfits.imp_right
      intro hnarrow s hs t ht
      obtain ⟨g, hg, hcontents⟩ := List.mem_filterMap.mp ht
      exact hnarrow id gradients priority rfl g hg t s hcontents hs
  | pull id weights => exact h.pull id weights
  | close => exact h.close

end Calls

theorem Session.fitted {o : Optimizer} {h : Host} {log : List Exchange} {x : LocalServer × Host}
    (hstate : o.state = []) (hplain : ∀ h ∈ o.hyperparameters, h.2.isSequence = false)
    (hsession : Session (LocalServer.new o, h) log x)
    (hfits : o.rule.carries = true ∨ Narrow log) :
    Fitted o.rule (registered log) x.1 := by
  induction hsession with
  | nil => exact .new hstate hplain
  | @call log x before r ih =>
    have hbefore := ih (hfits.imp_right fun hnarrow => hnarrow.append.1)
    have hafter := hbefore.request r (hfits.imp_right fun hnarrow => hnarrow.append.2)
    rw [registered, List.foldl_append]
    exact hafter
  | elsewhere before evolved ih => exact ih hfits

/-- In a session with a new optimizer without lists among its settings, if the rule carries state
arrays or no gradient is of a shape beyond that of its weight, every master has the shape of the
first array that its parameter was registered with; and a pull into open arrays of this shape
fails only if the optimizer refuses the gradient. -/
theorem master_shape_kept {o : Optimizer} {h : Host} {log : List Exchange} {x : LocalServer × Host}
    (hreached : Host.empty.Evolves h) (hstate : o.state = [])
    (hplain : ∀ h ∈ o.hyperparameters, h.2.isSequence = false)
    (hsession : Session (LocalServer.new o, h) log x)
    (hfits : o.rule.carries = true ∨ Narrow log) :
    (∀ id, (x.1.get? id).map Tensor.shape = registered log id) ∧
    ∀ id weights s fault y, registered log id = some s →
      (∀ a ∈ weights, ∃ t, x.2.pool.contents? a = some t ∧ t.shape = s) →
      (pull id weights).runFrom x = (.error fault, y) →
      ∃ w grad o', x.1.get? id = some w ∧ x.1.pending.lookup id = some grad ∧
        (Optimizer.update id w grad).runFrom x.1.optimizer = (.error fault, o') := by
  have hfitted := hsession.fitted hstate hplain hfits
  have hsound : x.2.pool.Sound := hsession.evolves.sound (Host.sound_of_reached hreached)
  refine ⟨hfitted.master, fun id weights s fault y hs hweights hrun => ?_⟩
  rcases pull_error_cases hrun with ⟨hunknown, -⟩ | ⟨w, grad, o', counters, hw, hgrad, hupdate, -⟩ |
    ⟨done, a, rest, w, hdone, hpulled, hw, hset⟩
  · have hmaster := hfitted.master id
    rw [hunknown, hs] at hmaster
    cases hmaster
  · exact ⟨w, grad, o', hw, hgrad, hupdate⟩
  · -- The array has the shape of the master, so it cannot have refused it.
    obtain ⟨t, hsettled, hoverwritten⟩ := pull_ok hpulled
    have hshape : w.shape = s := by
      have hmaster := (hfitted.settled hsettled).master id
      rw [hw, hs] at hmaster
      exact Option.some.inj hmaster
    obtain ⟨u, hu, hushape⟩ := hweights a (hdone ▸ List.mem_append_right _ (List.mem_cons_self ..))
    obtain ⟨k, hk, hkshape, -⟩ := hsound.exists_holding hu
    have hopen : (y.2.pool.array a).holding = some k := by
      rw [Pool.array_congr hoverwritten.table, hk]
    obtain ⟨r, hr⟩ := hoverwritten.evolves.still_numbers hsound hu hopen
    rw [Pool.runFrom_set hopen hr (by rw [hshape, ← hushape, hkshape])] at hset
    cases hset

/-! ## A trial -/

/-- A weight of one element and a gradient of two. -/
def wideGradient : Host := hostWith [.zeros .float32 [1], .zeros .float32 [2]]

/-- The weight is updated with the gradient. -/
def widened (o : Optimizer) : List Exchange × LocalServer × Host :=
  perform (LocalServer.new o, wideGradient)
    [.init "weight" [⟨0⟩], .push "weight" [⟨1⟩] 0, .pull "weight" [⟨0⟩]]

/-- An optimizer with momentum. -/
def carrying : Optimizer := { subtracting with rule := .sgd (.int 1) (.int 0) }

theorem master_shape_kept_carrying :
    registered (widened carrying).1 "weight" = some [1] ∧
      ((widened carrying).2.1.get? "weight").map Tensor.shape = some [1] := by
  have hregistered : registered (widened carrying).1 "weight" = some [1] := by decide +kernel
  have hsession : Session (LocalServer.new carrying, wideGradient) (widened carrying).1
      (widened carrying).2 :=
    session_perform _ _
  obtain ⟨hmaster, -⟩ :=
    master_shape_kept (reached_hostWith _) rfl (by decide) hsession (Or.inl rfl)
  exact ⟨hregistered, (hmaster "weight").trans hregistered⟩

/-- Without momentum the master takes the shape of the gradient, and the array of the weight does
not take the master. -/
theorem master_widened :
    registered (widened subtracting).1 "weight" = some [1] ∧
      ((widened subtracting).2.1.get? "weight").map Tensor.shape = some [2] ∧
      ((pull "weight" [⟨0⟩]).runFrom (widened subtracting).2).1.toOption = none := by
  refine ⟨?_, ?_, ?_⟩
  · decide +kernel
  · decide +kernel
  · decide +kernel

end LocalServer

end DataParallel

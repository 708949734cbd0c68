import DataParallel.Proofs.Optimizer.Training
import DataParallel.Proofs.Pool.Copy
import DataParallel.Proofs.Pool.Overwriting
import DataParallel.Proofs.Server.Contained

/-!
# What the local server does

An init call records the first array of a parameter that is not known yet and
does nothing else.  A push adds the sum of the gradients to what is pending.
A pull lets the optimizer make the next master of what is pending, once, and
overwrites the arrays with it.  No call touches what the server keeps of
another parameter.
-/

namespace DataParallel

open Step

namespace LocalServer

variable {v : LocalServer} {h : Host}

theorem runFrom_read (a : ArrayId) :
    (read a).runFrom (v, h) =
      ((h.pool.contents? a).elim (.error (h.pool.unread a)) .ok, v, h) := by
  rw [read, runFrom_second]
  simp only [Host.onPool, runFrom_within, Pool.runFrom_read]

/-! ## Init -/

/-- The server has learned of one parameter, if it did not know it and there
was a tensor to learn. -/
structure Learns (id : String) (t : Option Tensor) (v w : LocalServer) : Prop where
  optimizer : w.optimizer = v.optimizer
  pending : w.pending = v.pending
  priorities : w.priorities = v.priorities
  master : w.get? id = (v.get? id).or t
  others : ∀ name, name ≠ id → w.get? name = v.get? name

theorem Learns.refl (id : String) (v : LocalServer) : Learns id none v v :=
  ⟨rfl, rfl, rfl, Option.or_none.symm, fun _ _ => rfl⟩

theorem Learns.trans {id : String} {t : Option Tensor} {v w u : LocalServer}
    (hvw : Learns id t v w) (hwu : Learns id none w u) : Learns id t v u where
  optimizer := hwu.optimizer.trans hvw.optimizer
  pending := hwu.pending.trans hvw.pending
  priorities := hwu.priorities.trans hvw.priorities
  master := by rw [hwu.master, hvw.master, Option.or_none]
  others name hne := (hwu.others name hne).trans (hvw.others name hne)

/-- There is nothing to learn of a parameter that is known. -/
theorem Learns.known {id : String} {t : Option Tensor} {v w : LocalServer}
    (h : Learns id t v w) (hknown : (v.get? id).isSome) : Learns id none v w where
  optimizer := h.optimizer
  pending := h.pending
  priorities := h.priorities
  master := by
    obtain ⟨m, hm⟩ := Option.isSome_iff_exists.mp hknown
    rw [h.master, hm]
    rfl
  others := h.others

theorem Learns.get? {id name : String} {t : Option Tensor} {v w : LocalServer} {m : Tensor}
    (h : Learns id t v w) (hm : v.get? name = some m) : w.get? name = some m := by
  by_cases hname : name = id
  · subst hname
    rw [h.master, hm]
    rfl
  · rw [h.others name hname, hm]

/-- An init call fails only if the parameter is not known and the first array
is no open array of numbers. -/
theorem runFrom_init (id : String) (a : ArrayId) (rest : List ArrayId) (v : LocalServer)
    (h : Host) :
    ∃ r w k, (init id (a :: rest)).runFrom (v, h) = (r, w, k) ∧ k.pool = h.pool ∧
      Learns id (h.pool.contents? a) v w ∧ (r = .ok () ↔ (w.get? id).isSome) := by
  rw [init, runFrom_bind_of_ok (runFrom_modify _ _), runFrom_bind_of_ok (runFrom_get _)]
  dsimp only
  rcases hm : v.masters.lookup id with _ | m
  · have hread := runFrom_read (v := { v with counters.inits := v.counters.inits + 1 }) (h := h) a
    simp only [Option.isSome_none, Bool.false_eq_true, ↓reduceIte]
    rcases ht : h.pool.contents? a with _ | t
    · rw [ht] at hread
      rw [runFrom_bind_of_error hread]
      refine ⟨_, _, _, rfl, rfl, ⟨rfl, rfl, rfl, Option.or_none.symm, fun _ _ => rfl⟩, ?_⟩
      simp [get?, hm]
    · rw [ht] at hread
      rw [runFrom_bind_of_ok hread, runFrom_bind_of_ok (runFrom_modify _ _)]
      refine ⟨_, _, _, rfl, rfl, ⟨rfl, rfl, rfl, ?_, fun name hne => ?_⟩, ?_⟩
      · rw [get?, get?, Keyed.lookup_put, if_pos rfl, hm]
        rfl
      · rw [get?, get?, Keyed.lookup_put, if_neg hne]
      · simp [get?, Keyed.lookup_put]
  · refine ⟨_, _, _, rfl, rfl, ⟨rfl, rfl, rfl, ?_, fun _ _ => rfl⟩, ?_⟩
    · simp only [get?, hm, Option.some_or]
    · simp [get?, hm]

/-! ## Push -/

/-- What is pending after a sum of gradients was added, if there is one. -/
def merged : Option Tensor → Option Tensor → Except Fault (Option Tensor)
  | pending, none => .ok pending
  | none, some sum => .ok (some sum)
  | some old, some sum => some <$> old.combine .add sum

/-- What is pending after some gradients. -/
def due (pending : Option Tensor) (grads : List Tensor) : Except Fault (Option Tensor) := do
  merged pending (← Tensor.sum? grads)

theorem due_none (grads : List Tensor) : due none grads = Tensor.sum? grads := by
  rw [due]
  rcases Tensor.sum? grads with fault | _ | sum
  · rfl
  · rfl
  · rfl

theorem total_ok {sum r : Option Tensor} {arrays : List ArrayId} {x y : LocalServer × Host}
    (hrun : (total sum arrays).runFrom x = (.ok r, y)) :
    y = x ∧ (∀ a ∈ arrays, (x.2.pool.contents? a).isSome) ∧
      Tensor.sum? (sum.toList ++ arrays.filterMap x.2.pool.contents?) = .ok r := by
  induction arrays generalizing sum with
  | nil =>
    rw [total] at hrun
    obtain ⟨hr, hy⟩ := Prod.mk.inj hrun
    refine ⟨hy.symm, fun _ hmem => (by cases hmem), ?_⟩
    rw [← Except.ok.inj hr]
    rcases sum with _ | sum
    · rfl
    · rfl
  | cons a rest ih =>
    have hread := runFrom_read (v := x.1) (h := x.2) a
    rcases ht : x.2.pool.contents? a with _ | t
    · rw [ht] at hread
      rcases sum with _ | sum
      · rw [total, runFrom_bind_of_error hread] at hrun
        cases hrun
      · rw [total, runFrom_bind_of_error hread] at hrun
        cases hrun
    · rw [ht] at hread
      have hfilled : (∀ b ∈ rest, (x.2.pool.contents? b).isSome) →
          ∀ b ∈ a :: rest, (x.2.pool.contents? b).isSome := by
        intro hrest b hb
        rcases List.mem_cons.mp hb with rfl | hb
        · rw [ht]
          rfl
        · exact hrest b hb
      rcases sum with _ | sum
      · rw [total, runFrom_bind_of_ok hread] at hrun
        obtain ⟨hy, hrest, hsum⟩ := ih hrun
        refine ⟨hy, hfilled hrest, ?_⟩
        rw [List.filterMap_cons, ht]
        exact hsum
      · rw [total, runFrom_bind_of_ok hread] at hrun
        obtain ⟨next, z, hadd, hrun⟩ := runFrom_bind_eq_ok hrun
        obtain ⟨hnext, hz⟩ := Prod.mk.inj hadd
        rw [← hz] at hrun
        obtain ⟨hy, hrest, hsum⟩ := ih hrun
        refine ⟨hy, hfilled hrest, ?_⟩
        simp only [Option.toList_some, List.singleton_append, Tensor.sum?,
          List.filterMap_cons, ht, List.foldlM_cons, hnext] at hsum ⊢
        exact hsum

theorem master_ok {id : String} {m : Tensor} {x y : LocalServer × Host}
    (hrun : (master id).runFrom x = (.ok m, y)) : y = x ∧ x.1.get? id = some m := by
  rw [master, runFrom_bind_of_ok (runFrom_get _)] at hrun
  rcases hm : x.1.masters.lookup id with _ | t
  · rw [hm] at hrun
    cases hrun
  · rw [hm] at hrun
    obtain ⟨ht, hy⟩ := Prod.mk.inj hrun
    rw [← Except.ok.inj ht]
    exact ⟨hy.symm, hm⟩

theorem sum?_eq_ok_none {grads : List Tensor} : Tensor.sum? grads = .ok none ↔ grads = [] := by
  constructor
  · intro hsum
    cases grads with
    | nil => rfl
    | cons t rest =>
      rcases hfold : rest.foldlM (fun sum u => sum.combine .add u) t with fault | sum
      · rw [Tensor.sum?, hfold] at hsum
        cases hsum
      · rw [Tensor.sum?, hfold] at hsum
        cases hsum
  · rintro rfl
    rfl

/-- What the server is after gradients of a parameter were pushed. -/
structure Gathered (id : String) (grads : List Tensor) (priority : Int) (v v' : LocalServer) :
    Prop where
  known : (v.get? id).isSome
  optimizer : v'.optimizer = v.optimizer
  masters : v'.masters = v.masters
  pending : due (v.pending.lookup id) grads = .ok (v'.pending.lookup id)
  priority : v'.priority? id = if grads = [] then v.priority? id else some priority
  others : ∀ name, name ≠ id →
    v'.pending.lookup name = v.pending.lookup name ∧ v'.priority? name = v.priority? name

theorem Gathered.get? {id : String} {grads : List Tensor} {priority : Int} {v w : LocalServer}
    (h : Gathered id grads priority v w) (name : String) : w.get? name = v.get? name := by
  rw [LocalServer.get?, LocalServer.get?, h.masters]

/-- Without gradients a push is only counted. -/
theorem gathered_nothing {id : String} {v : LocalServer} (hknown : (v.get? id).isSome)
    (priority : Int) (counters : ServerCounters) :
    Gathered id [] priority v { v with counters := counters } := by
  refine ⟨hknown, rfl, rfl, ?_, (if_pos rfl).symm, fun _ _ => ⟨rfl, rfl⟩⟩
  dsimp only
  rcases v.pending.lookup id with _ | old
  · rfl
  · rfl

/-- What is due and the priority are recorded under the name of the parameter. -/
theorem gathered_put {id : String} {grads : List Tensor} {t : Tensor} {v : LocalServer}
    (hknown : (v.get? id).isSome) (hgrads : grads ≠ [])
    (hdue : due (v.pending.lookup id) grads = .ok (some t)) (priority : Int)
    (counters : ServerCounters) :
    Gathered id grads priority v
      { v with
        counters := counters
        pending := Keyed.put id t v.pending
        priorities := Keyed.put id priority v.priorities } := by
  refine ⟨hknown, rfl, rfl, ?_, ?_, fun name hne => ⟨?_, ?_⟩⟩
  · rw [hdue, Keyed.lookup_put, if_pos rfl]
  · rw [if_neg hgrads, priority?, Keyed.lookup_put, if_pos rfl]
  · rw [Keyed.lookup_put, if_neg hne]
  · rw [priority?, Keyed.lookup_put, if_neg hne]
    rfl

/-- What a push has done that succeeded. -/
theorem push_ok {id : String} {gradients : List ArrayId} {priority : Int}
    {x y : LocalServer × Host} (hrun : (push id gradients priority).runFrom x = (.ok (), y)) :
    y.2 = x.2 ∧ (∀ g ∈ gradients, (x.2.pool.contents? g).isSome) ∧
      Gathered id (gradients.filterMap x.2.pool.contents?) priority x.1 y.1 := by
  obtain ⟨m, x₁, hmaster, hrun⟩ := runFrom_bind_eq_ok hrun
  obtain ⟨hx₁, hm⟩ := master_ok hmaster
  have hknown : (x.1.get? id).isSome := Option.isSome_of_eq_some hm
  rw [hx₁, runFrom_bind_of_ok (runFrom_modify _ _)] at hrun
  obtain ⟨sum, x₂, htotal, hrun⟩ := runFrom_bind_eq_ok hrun
  obtain ⟨hx₂, hfilled, hsum⟩ := total_ok htotal
  rw [hx₂] at hrun
  have hsum' : Tensor.sum? (gradients.filterMap x.2.pool.contents?) = .ok sum := hsum
  rcases sum with _ | sum
  · obtain ⟨-, hy⟩ := Prod.mk.inj hrun
    rw [← hy, sum?_eq_ok_none.mp hsum']
    exact ⟨rfl, hfilled, gathered_nothing hknown priority _⟩
  · have hsome : gradients.filterMap x.2.pool.contents? ≠ [] := by
      intro hempty
      rw [sum?_eq_ok_none.mpr hempty] at hsum'
      cases hsum'
    have hdue : due (x.1.pending.lookup id) (gradients.filterMap x.2.pool.contents?) =
        merged (x.1.pending.lookup id) (some sum) := by
      rw [due, hsum']
      rfl
    rw [runFrom_bind_of_ok (runFrom_get _)] at hrun
    dsimp only at hrun
    rcases hold : x.1.pending.lookup id with _ | old
    · rw [hold] at hrun hdue
      obtain ⟨-, hy⟩ := Prod.mk.inj hrun
      rw [← hy]
      exact ⟨rfl, hfilled, gathered_put hknown hsome (hold ▸ hdue) priority _⟩
    · rw [hold] at hrun hdue
      obtain ⟨t, x₃, hadd, hrun⟩ := runFrom_bind_eq_ok hrun
      obtain ⟨ht, hx₃⟩ := Prod.mk.inj hadd
      rw [merged, ht] at hdue
      obtain ⟨-, hy⟩ := Prod.mk.inj hrun
      rw [← hy, ← hx₃]
      exact ⟨rfl, hfilled, gathered_put hknown hsome (hold ▸ hdue) priority _⟩

/-! ## Pull -/

/-- What the server has done that made the next master of a parameter. -/
structure Settled (id : String) (w : Tensor) (v v' : LocalServer) : Prop where
  update : ∃ m, v.get? id = some m ∧
    (Optimizer.advance id m (v.pending.lookup id)).runFrom v.optimizer = (.ok w, v'.optimizer)
  master : v'.get? id = some w
  taken : v'.pending.lookup id = none
  priorities : v'.priorities = v.priorities
  others : ∀ name, name ≠ id →
    v'.get? name = v.get? name ∧ v'.pending.lookup name = v.pending.lookup name

/-- What the optimizer keeps of another parameter is left. -/
theorem Settled.agree {id name : String} {t : Tensor} {v w : LocalServer}
    (h : Settled id t v w) (hname : name ≠ id) :
    Optimizer.Agree name v.optimizer w.optimizer := by
  obtain ⟨m, -, hnext⟩ := h.update
  exact (Optimizer.along_advance (Ne.symm hname) m _).of_run hnext

theorem settle_ok {id : String} {x y : LocalServer × Host}
    (hrun : (settle id).runFrom x = (.ok (), y)) :
    y.2 = x.2 ∧ ∃ w, Settled id w x.1 y.1 := by
  obtain ⟨m, x₁, hmaster, hrun⟩ := runFrom_bind_eq_ok hrun
  obtain ⟨hx₁, hm⟩ := master_ok hmaster
  rw [hx₁] at hrun
  obtain ⟨pending, x₂, htake, hrun⟩ := runFrom_bind_eq_ok hrun
  rw [takePending, runFrom_bind_of_ok (runFrom_get _),
    runFrom_bind_of_ok (runFrom_modify _ _)] at htake
  obtain ⟨hpending, hx₂⟩ := Prod.mk.inj htake
  rw [← hx₂] at hrun
  have hdrop : ∀ name, (Keyed.drop id x.1.pending).lookup name =
      if name = id then none else x.1.pending.lookup name :=
    Keyed.lookup_drop id x.1.pending
  rcases pending with _ | grad
  · obtain ⟨-, hy⟩ := Prod.mk.inj hrun
    rw [← hy]
    refine ⟨rfl, m, ⟨m, hm, ?_⟩, hm, ?_, rfl, fun name hne => ⟨rfl, ?_⟩⟩
    · rw [Except.ok.inj hpending]
      rfl
    · exact (hdrop id).trans (if_pos rfl)
    · exact (hdrop name).trans (if_neg hne)
  · obtain ⟨w, x₃, hupdate, hrun⟩ := runFrom_bind_eq_ok hrun
    rw [runFrom_first, runFrom_within] at hupdate
    obtain ⟨hw, hx₃⟩ := Prod.mk.inj hupdate
    obtain ⟨-, hy⟩ := Prod.mk.inj hrun
    have hput : ∀ name, (Keyed.put id w x.1.masters).lookup name =
        if name = id then some w else x.1.masters.lookup name :=
      Keyed.lookup_put id w x.1.masters
    rw [← hy, ← hx₃]
    refine ⟨rfl, w, ⟨m, hm, ?_⟩, ?_, ?_, rfl, fun name hne => ⟨?_, ?_⟩⟩
    · rw [Except.ok.inj hpending]
      exact Prod.ext hw rfl
    · exact (hput id).trans (if_pos rfl)
    · exact (hdrop id).trans (if_pos rfl)
    · exact (hput name).trans (if_neg hne)
    · exact (hdrop name).trans (if_neg hne)

theorem writeAll_ok {t : Tensor} {arrays : List ArrayId} {x y : LocalServer × Host}
    (hrun : (writeAll t arrays).runFrom x = (.ok (), y)) :
    y.1 = x.1 ∧ Pool.Overwritten x.2.pool y.2.pool arrays t := by
  induction arrays generalizing x with
  | nil =>
    obtain ⟨-, hy⟩ := Prod.mk.inj hrun
    rw [← hy]
    exact ⟨rfl, .nil _ t⟩
  | cons a rest ih =>
    obtain ⟨_, x₁, hset, hrun⟩ := runFrom_bind_eq_ok hrun
    obtain ⟨hresult, hx₁⟩ := Prod.mk.inj hset
    have hwrite : (Pool.set a t).runFrom x.2.pool =
        (.ok (), ((Pool.set a t).runFrom x.2.pool).2) := Prod.ext hresult rfl
    obtain ⟨k, u, hk, hu, hshape, hwritten⟩ := Pool.set_eq_ok hwrite
    obtain ⟨hserver, hrest⟩ := ih hrun
    have hpool : x₁.2.pool = x.2.pool.written k.buffer t := by
      rw [← hx₁]
      exact hwritten
    rw [hpool] at hrest
    refine ⟨?_, hrest.cons hk hu hshape⟩
    rw [hserver, ← hx₁]

/-- What a pull has done that succeeded. -/
theorem pull_ok {id : String} {weights : List ArrayId} {x y : LocalServer × Host}
    (hrun : (pull id weights).runFrom x = (.ok (), y)) :
    ∃ w, Settled id w x.1 y.1 ∧ Pool.Overwritten x.2.pool y.2.pool weights w := by
  obtain ⟨m, x₁, hmaster, hrun⟩ := runFrom_bind_eq_ok hrun
  rw [(master_ok hmaster).1, runFrom_bind_of_ok (runFrom_modify _ _)] at hrun
  obtain ⟨_, x₂, hsettle, hrun⟩ := runFrom_bind_eq_ok hrun
  obtain ⟨hhost, w, hsettled⟩ := settle_ok hsettle
  obtain ⟨w', x₃, hmaster', hrun⟩ := runFrom_bind_eq_ok hrun
  obtain ⟨hx₃, hw'⟩ := master_ok hmaster'
  obtain rfl : w = w' := by
    rw [hsettled.master] at hw'
    exact Option.some.inj hw'
  rw [hx₃] at hrun
  obtain ⟨hserver, hwritten⟩ := writeAll_ok hrun
  rw [hhost] at hwritten
  refine ⟨w, ?_, hwritten⟩
  rw [hserver]
  exact ⟨hsettled.update, hsettled.master, hsettled.taken, hsettled.priorities, hsettled.others⟩

/-- Every array that was written holds the tensor in its own element type, also if it shares its
buffer with others. -/
theorem writeAll_fills {t : Tensor} {arrays : List ArrayId} {x y : LocalServer × Host}
    (hp : x.2.pool.Sound) (hrun : (writeAll t arrays).runFrom x = (.ok (), y)) :
    (∀ a d, x.2.pool.contents? a = some (t.cast d) → y.2.pool.contents? a = some (t.cast d)) ∧
      ∀ a ∈ arrays, ∃ old, x.2.pool.contents? a = some old ∧
        y.2.pool.contents? a = some (t.cast old.dtype) := by
  induction arrays generalizing x with
  | nil =>
    obtain ⟨-, rfl⟩ := Prod.mk.inj hrun
    constructor
    · exact fun _ _ ha => ha
    · intro a ha
      cases ha
  | cons first rest ih =>
    obtain ⟨_, x₁, hset, hrun⟩ := runFrom_bind_eq_ok hrun
    obtain ⟨hresult, hx₁⟩ := Prod.mk.inj hset
    have hpool : (Pool.set first t).runFrom x.2.pool = (.ok (), x₁.2.pool) := by
      rw [← hx₁]
      exact Prod.ext hresult rfl
    have hevolves : x.2.pool.Evolves x₁.2.pool := (Pool.along_set first t).of_run hpool
    have htable : x₁.2.pool.arrays = x.2.pool.arrays := by
      have hsame := Pool.table_set x.2.pool first t
      rwa [hpool] at hsame
    obtain ⟨b, old, hwritten, hold, hnew⟩ := Pool.contents?_set_self hp hpool
    obtain ⟨hstay, hfilled⟩ := ih (hevolves.sound hp) hrun
    constructor
    · intro a d ha
      apply hstay
      rw [hwritten]
      exact Pool.contents?_written_again hp ha
    · intro a ha
      rcases List.mem_cons.mp ha with rfl | ha
      · exact ⟨old, hold, hstay a _ hnew⟩
      · obtain ⟨u, hu, hy⟩ := hfilled a ha
        have hhas : x.2.pool.Has a := by
          rw [Pool.Has, ← htable]
          exact Pool.has_of_contents? hu
        obtain ⟨before, hbefore, hdtype, -⟩ := hevolves.exists_contents? hp hhas hu
        rw [← hdtype] at hy
        exact ⟨before, hbefore, hy⟩

/-- After a pull its arrays hold the master. -/
theorem pull_fills {id : String} {weights : List ArrayId} {x y : LocalServer × Host}
    (hp : x.2.pool.Sound) (hrun : (pull id weights).runFrom x = (.ok (), y)) :
    ∃ w, y.1.get? id = some w ∧ ∀ a ∈ weights, ∃ old, x.2.pool.contents? a = some old ∧
      y.2.pool.contents? a = some (w.cast old.dtype) := by
  obtain ⟨m, x₁, hmaster, hrun⟩ := runFrom_bind_eq_ok hrun
  rw [(master_ok hmaster).1, runFrom_bind_of_ok (runFrom_modify _ _)] at hrun
  obtain ⟨_, x₂, hsettle, hrun⟩ := runFrom_bind_eq_ok hrun
  have hhost : x₂.2 = x.2 := (settle_ok hsettle).1
  obtain ⟨w, x₃, hmaster', hrun⟩ := runFrom_bind_eq_ok hrun
  obtain ⟨hx₃, hw⟩ := master_ok hmaster'
  rw [hx₃] at hrun
  have hsound : x₂.2.pool.Sound := by rwa [hhost]
  obtain ⟨-, hfilled⟩ := writeAll_fills hsound hrun
  refine ⟨w, ?_, ?_⟩
  · rw [(writeAll_ok hrun).1]
    exact hw
  · rwa [hhost] at hfilled

end LocalServer

end DataParallel

import DataParallel.Proofs.Optimizer.FailedUpdate
import DataParallel.Proofs.Server.FailedCall
import Mathlib.Algebra.BigOperators.Group.Finset.Piecewise
import Mathlib.Algebra.GroupWithZero.Nat

/-!
# The books of the local server

What a server has pending for a parameter came with a priority, and what has a priority has a
master.  The counters bound what is kept: each master took an init call, each update a pull, and
each gradient that was used or waits took a push.  None of this depends on how calls end, nor on
the optimizer, which may serve other servers as well.  An optimizer that serves one server alone
has counted the updates of this server, as long as no call fails and the server is not closed.
-/

namespace DataParallel

open Step

namespace LocalServer

/-! ## What one call enters -/

/-- What a call that does its work enters into the books. -/
inductive Entry (v : LocalServer) : LocalServer → Prop
  | nothing : Entry v v
  | asked : Entry v { v with counters.inits := v.counters.inits + 1 }
  | registered (id : String) (t : Tensor) (unknown : v.get? id = none) :
      Entry v
        { v with
          counters.inits := v.counters.inits + 1
          masters := Keyed.put id t v.masters }
  | pushed : Entry v { v with counters.pushes := v.counters.pushes + 1 }
  | gathered (id : String) (t : Tensor) (priority : Int) (known : (v.get? id).isSome) :
      Entry v
        { v with
          counters.pushes := v.counters.pushes + 1
          pending := Keyed.put id t v.pending
          priorities := Keyed.put id priority v.priorities }
  | pulled (id : String) :
      Entry v
        { v with
          counters.pulls := v.counters.pulls + 1
          pending := Keyed.drop id v.pending }
  | settled (id : String) (m grad t : Tensor) (o : Optimizer) (known : v.get? id = some m)
      (due : v.pending.lookup id = some grad)
      (update : (Optimizer.update id m grad).runFrom v.optimizer = (.ok t, o)) :
      Entry v
        { v with
          counters.pulls := v.counters.pulls + 1
          counters.updates := v.counters.updates + 1
          pending := Keyed.drop id v.pending
          masters := Keyed.put id t v.masters
          updated := v.updated.insert id
          optimizer := o }

/-- What a pull enters whose update the optimizer refuses. -/
inductive Refused (v : LocalServer) : LocalServer → Prop
  | mk (id : String) (o : Optimizer) :
      Refused v
        { v with
          counters.pulls := v.counters.pulls + 1
          pending := Keyed.drop id v.pending
          optimizer := o }

section Calls

variable (x : LocalServer × Host)

theorem entry_init (id : String) (arrays : List ArrayId) :
    Entry x.1 ((init id arrays).runFrom x).2.1 := by
  rcases arrays with _ | ⟨a, rest⟩
  · exact .nothing
  · rw [init, runFrom_bind_of_ok (runFrom_modify _ _), runFrom_bind_of_ok (runFrom_get _)]
    dsimp only
    split
    · exact .asked
    · next hunknown =>
      rw [runFrom_bind, runFrom_read]
      rcases x.2.pool.contents? a with _ | t
      · exact .asked
      · exact .registered id t (Option.not_isSome_iff_eq_none.mp hunknown)

theorem entry_push (id : String) (gradients : List ArrayId) (priority : Int) :
    Entry x.1 ((push id gradients priority).runFrom x).2.1 := by
  rw [push, runFrom_bind, runFrom_master]
  rcases hm : x.1.get? id with _ | m
  · exact .nothing
  · have hknown : (x.1.get? id).isSome := Option.isSome_of_eq_some hm
    have hsame := runFrom_total_snd none gradients
      ({ x.1 with counters.pushes := x.1.counters.pushes + 1 }, x.2)
    dsimp only [Option.elim]
    rw [runFrom_bind_of_ok (runFrom_modify _ _), runFrom_bind]
    generalize (total none gradients).runFrom _ = r at hsame
    obtain ⟨sum, y⟩ := r
    obtain rfl := hsame
    rcases sum with fault | _ | sum
    · exact .pushed
    · exact .pushed
    · dsimp only
      rw [runFrom_bind_of_ok (runFrom_get _)]
      dsimp only
      rcases x.1.pending.lookup id with _ | old
      · exact .gathered id sum priority hknown
      · dsimp only
        rw [runFrom_bind, runFrom_ofExcept]
        rcases old.combine .add sum with fault | t
        · exact .pushed
        · exact .gathered id t priority hknown

theorem writeAll_server (t : Tensor) (arrays : List ArrayId) :
    ((writeAll t arrays).runFrom x).2.1 = x.1 := by
  rcases hrun : (writeAll t arrays).runFrom x with ⟨fault | _, y⟩
  · obtain ⟨done, -, -, -, hdone, -⟩ := writeAll_error hrun
    exact (writeAll_ok hdone).1
  · exact (writeAll_ok hrun).1

/-- How the pending gradient of a known parameter is settled: there is none, it has become the next
master, or the optimizer has refused it. -/
theorem runFrom_settle_cases {id : String} {m : Tensor} (hm : x.1.get? id = some m) :
    (settle id).runFrom x = (.ok (), { x.1 with pending := Keyed.drop id x.1.pending }, x.2) ∨
    (∃ grad t o, x.1.pending.lookup id = some grad ∧
      (Optimizer.update id m grad).runFrom x.1.optimizer = (.ok t, o) ∧
      (settle id).runFrom x = (.ok (),
        { x.1 with
          counters.updates := x.1.counters.updates + 1
          pending := Keyed.drop id x.1.pending
          masters := Keyed.put id t x.1.masters
          updated := x.1.updated.insert id
          optimizer := o }, x.2)) ∨
    ∃ fault o, (settle id).runFrom x =
      (.error fault, { x.1 with pending := Keyed.drop id x.1.pending, optimizer := o }, x.2) := by
  have hmaster : (master id).runFrom x = (.ok m, x) := by
    rw [runFrom_master, hm]
    rfl
  have htake : (takePending id).runFrom x = (.ok (x.1.pending.lookup id),
      { x.1 with pending := Keyed.drop id x.1.pending }, x.2) := rfl
  rw [settle, runFrom_bind_of_ok hmaster, runFrom_bind_of_ok htake]
  rcases hgrad : x.1.pending.lookup id with _ | grad
  · exact Or.inl rfl
  · apply Or.inr
    dsimp only
    rw [runFrom_bind, runFrom_first, runFrom_within]
    rcases hupdate : (Optimizer.update id m grad).runFrom x.1.optimizer with ⟨fault | t, o⟩
    · exact Or.inr ⟨fault, o, rfl⟩
    · exact Or.inl ⟨grad, t, o, rfl, hupdate, rfl⟩

theorem entry_pull (id : String) (weights : List ArrayId) :
    Entry x.1 ((pull id weights).runFrom x).2.1 ∨
      (∃ fault, ((pull id weights).runFrom x).1 = .error fault) ∧
        Refused x.1 ((pull id weights).runFrom x).2.1 := by
  rw [pull, runFrom_bind, runFrom_master]
  rcases hm : x.1.get? id with _ | m
  · exact Or.inl .nothing
  · dsimp only [Option.elim]
    rw [runFrom_bind_of_ok (runFrom_modify _ _), runFrom_bind]
    rcases runFrom_settle_cases
        ({ x.1 with counters.pulls := x.1.counters.pulls + 1 }, x.2) hm with
      hnone | ⟨grad, t, o, hgrad, hupdate, hsettled⟩ | ⟨fault, o, hrefused⟩
    · have hkept : x.1.masters.lookup id = some m := hm
      rw [hnone]
      dsimp only
      rw [runFrom_bind, runFrom_master, get?, hkept]
      dsimp only [Option.elim]
      rw [writeAll_server]
      exact Or.inl (.pulled id)
    · rw [hsettled]
      dsimp only
      rw [runFrom_bind, runFrom_master, get?, Keyed.lookup_put, if_pos rfl]
      dsimp only [Option.elim]
      rw [writeAll_server]
      exact Or.inl (.settled id m grad t o hm hgrad hupdate)
    · rw [hrefused]
      exact Or.inr ⟨⟨fault, rfl⟩, .mk id o⟩

/-- Whatever is asked: only a pull that fails and a close enter something else. -/
theorem Request.entry (r : Request) :
    Entry x.1 (r.step.runFrom x).2.1 ∨
      (∃ fault, (r.step.runFrom x).1 = .error fault) ∧ Refused x.1 (r.step.runFrom x).2.1 ∨
      r = .close := by
  cases r with
  | init id arrays => exact Or.inl (entry_init x id arrays)
  | push id gradients priority => exact Or.inl (entry_push x id gradients priority)
  | pull id weights => exact (entry_pull x id weights).imp_right Or.inl
  | close => exact Or.inr (Or.inr rfl)

end Calls

/-! ## Books that are in order -/

/-- The books are in order. -/
structure Booked (v : LocalServer) : Prop where
  pending : ∀ id, (v.pending.lookup id).isSome → (v.priority? id).isSome ∧ (v.get? id).isSome
  priorities : ∀ id, (v.priority? id).isSome → (v.get? id).isSome
  masters : v.masters.length ≤ v.counters.inits
  updates : v.counters.updates ≤ v.counters.pulls
  pushes : v.counters.updates + v.pending.length ≤ v.counters.pushes

theorem booked_new (o : Optimizer) : (LocalServer.new o).Booked :=
  ⟨nofun, nofun, Nat.le_refl 0, Nat.le_refl 0, Nat.le_refl 0⟩

section Booked

variable {v w : LocalServer}

theorem Booked.withOptimizer (h : v.Booked) (o : Optimizer) : { v with optimizer := o }.Booked :=
  ⟨h.pending, h.priorities, h.masters, h.updates, h.pushes⟩

theorem Booked.close (h : v.Booked) : v.close.Booked :=
  ⟨nofun, nofun, Nat.zero_le _, h.updates, Nat.le_trans (Nat.le_add_right _ _) h.pushes⟩

/-- What is pending after a gradient was taken was pending before. -/
theorem Booked.left (h : v.Booked) (id : String) {name : String}
    (hname : ((Keyed.drop id v.pending).lookup name).isSome) :
    (v.priority? name).isSome ∧ (v.get? name).isSome := by
  rw [Keyed.lookup_drop] at hname
  split at hname
  · cases hname
  · exact h.pending name hname

theorem isSome_lookup_put {α : Type} {id name : String} {a : α} {entries : List (String × α)}
    (h : (entries.lookup name).isSome) : ((Keyed.put id a entries).lookup name).isSome := by
  rw [Keyed.lookup_put]
  split
  · rfl
  · exact h

theorem Booked.registered (h : v.Booked) (id : String) (t : Tensor) :
    { v with
      counters.inits := v.counters.inits + 1
      masters := Keyed.put id t v.masters }.Booked where
  pending name hname := (h.pending name hname).imp_right isSome_lookup_put
  priorities name hname := isSome_lookup_put (h.priorities name hname)
  masters := Nat.le_trans (Keyed.length_put_le id t v.masters) (Nat.succ_le_succ h.masters)
  updates := h.updates
  pushes := h.pushes

theorem Booked.gathered (h : v.Booked) {id : String} (hknown : (v.get? id).isSome) (t : Tensor)
    (priority : Int) :
    { v with
      counters.pushes := v.counters.pushes + 1
      pending := Keyed.put id t v.pending
      priorities := Keyed.put id priority v.priorities }.Booked where
  pending name hname := by
    by_cases hid : name = id
    · rw [hid]
      refine ⟨?_, hknown⟩
      rw [priority?, Keyed.lookup_put, if_pos rfl]
      rfl
    · have hbefore : (v.pending.lookup name).isSome := by
        rwa [Keyed.lookup_put, if_neg hid] at hname
      exact (h.pending name hbefore).imp_left isSome_lookup_put
  priorities name hname := by
    by_cases hid : name = id
    · rw [hid]
      exact hknown
    · rw [priority?, Keyed.lookup_put, if_neg hid] at hname
      exact h.priorities name hname
  masters := h.masters
  updates := h.updates
  pushes := by
    have hpushes := h.pushes
    have hlength := Keyed.length_put_le id t v.pending
    dsimp only
    omega

/-- A gradient that is taken has taken a push, and makes room for one update. -/
theorem Booked.taken (h : v.Booked) (id : String) (o : Optimizer) :
    { v with
      counters.pulls := v.counters.pulls + 1
      pending := Keyed.drop id v.pending
      optimizer := o }.Booked where
  pending _ hname := h.left id hname
  priorities := h.priorities
  masters := h.masters
  updates := Nat.le_succ_of_le h.updates
  pushes := Nat.le_trans (Nat.add_le_add_left (Keyed.length_drop_le id v.pending) _) h.pushes

theorem Booked.settled (h : v.Booked) {id : String} (hknown : (v.get? id).isSome)
    (hdue : (v.pending.lookup id).isSome) (t : Tensor) (o : Optimizer) :
    { v with
      counters.pulls := v.counters.pulls + 1
      counters.updates := v.counters.updates + 1
      pending := Keyed.drop id v.pending
      masters := Keyed.put id t v.masters
      updated := v.updated.insert id
      optimizer := o }.Booked where
  pending name hname := (h.left id hname).imp_right isSome_lookup_put
  priorities name hname := isSome_lookup_put (h.priorities name hname)
  masters := by
    have hlength := Keyed.length_put_of_isSome hknown t
    have hmasters := h.masters
    dsimp only
    omega
  updates := Nat.succ_le_succ h.updates
  pushes := by
    have hpushes := h.pushes
    have hlength := Keyed.length_drop_lt hdue
    dsimp only
    omega

theorem Booked.entry (h : v.Booked) (hentry : Entry v w) : w.Booked := by
  cases hentry with
  | nothing => exact h
  | asked => exact ⟨h.pending, h.priorities, Nat.le_succ_of_le h.masters, h.updates, h.pushes⟩
  | registered id t => exact h.registered id t
  | pushed => exact ⟨h.pending, h.priorities, h.masters, h.updates, Nat.le_succ_of_le h.pushes⟩
  | gathered id t priority known => exact h.gathered known t priority
  | pulled id => exact h.taken id v.optimizer
  | settled id m grad t o known due =>
    exact h.settled (Option.isSome_of_eq_some known) (Option.isSome_of_eq_some due) t o

/-- One more request, whether it succeeds or fails. -/
theorem Booked.request {x : LocalServer × Host} (h : x.1.Booked) (r : Request) :
    (r.step.runFrom x).2.1.Booked := by
  rcases Request.entry x r with hentry | ⟨-, hrefused⟩ | rfl
  · exact h.entry hentry
  · generalize (r.step.runFrom x).2.1 = w at hrefused
    obtain ⟨id, o⟩ := hrefused
    exact h.taken id o
  · exact h.close

end Booked

/-! ## Updates that the optimizer has counted -/

/-- The optimizer has counted the updates of this server: `n id` for each parameter, nothing for
one that is not registered, and all of them together. -/
structure Tallied (n : String → Nat) (v : LocalServer) : Prop where
  regular : v.optimizer.Regular
  counted : ∀ id, v.optimizer.count id = .int (n id)
  known : ∀ id, n id ≠ 0 → (v.get? id).isSome
  distinct : (v.masters.map Prod.fst).Nodup
  updates : v.counters.updates = ((v.masters.map Prod.fst).map n).sum

/-- One more for one of the members makes one more in the sum. -/
theorem sum_map_raised {ids : List String} (hids : ids.Nodup) {id : String} (hid : id ∈ ids)
    (n : String → Nat) :
    (ids.map fun name => n name + if id = name then 1 else 0).sum = (ids.map n).sum + 1 := by
  rw [← List.sum_toFinset _ hids, ← List.sum_toFinset _ hids, Finset.sum_add_distrib,
    Finset.sum_ite_eq, if_pos (List.mem_toFinset.mpr hid)]

theorem mem_names_iff {v : LocalServer} {id : String} :
    id ∈ v.masters.map Prod.fst ↔ (v.get? id).isSome := by
  rw [get?, List.lookup_isSome_iff]
  simp

section Tallied

variable {n : String → Nat} {v w : LocalServer}

theorem tallied_new {o : Optimizer} (ho : o.Regular) (hcounts : o.counts = []) :
    Tallied (fun _ => 0) (LocalServer.new o) where
  regular := ho
  counted id := by
    rw [LocalServer.new, Optimizer.count, hcounts]
    rfl
  known _ h := absurd rfl h
  distinct := List.nodup_nil
  updates := rfl

theorem Tallied.registered (h : Tallied n v) {id : String} (hunknown : v.get? id = none)
    (t : Tensor) :
    Tallied n
      { v with
        counters.inits := v.counters.inits + 1
        masters := Keyed.put id t v.masters } where
  regular := h.regular
  counted := h.counted
  known name hname := isSome_lookup_put (h.known name hname)
  distinct := Keyed.nodup_put id t h.distinct
  updates := by
    have hzero : n id = 0 := by
      by_contra hne
      have hknown := h.known id hne
      rw [hunknown] at hknown
      cases hknown
    dsimp only
    rw [Keyed.put_of_lookup_eq_none hunknown, List.map_append, List.map_append, List.sum_append,
      ← h.updates]
    simp [hzero]

/-- The update of a known parameter is counted once by the server and once by the optimizer. -/
theorem Tallied.settled (h : Tallied n v) {id : String} {m : Tensor} (hm : v.get? id = some m)
    {grad t : Tensor} {o : Optimizer}
    (hupdate : (Optimizer.update id m grad).runFrom v.optimizer = (.ok t, o)) :
    Tallied (fun name => n name + if id = name then 1 else 0)
      { v with
        counters.pulls := v.counters.pulls + 1
        counters.updates := v.counters.updates + 1
        pending := Keyed.drop id v.pending
        masters := Keyed.put id t v.masters
        updated := v.updated.insert id
        optimizer := o } := by
  have hknown : (v.get? id).isSome := Option.isSome_of_eq_some hm
  have ho : o = Optimizer.Update.after v.optimizer ⟨id, m, grad⟩ := (congrArg Prod.snd hupdate).symm
  have hnames := Keyed.map_fst_put_of_isSome hknown t
  constructor
  · rw [ho]
    exact h.regular.after _
  · intro name
    rw [ho]
    exact h.regular.count_after_eq ⟨id, m, grad⟩ (h.counted name)
  · intro name hname
    by_cases hid : id = name
    · rw [← hid, get?, Keyed.lookup_put, if_pos rfl]
      rfl
    · rw [if_neg hid, Nat.add_zero] at hname
      exact isSome_lookup_put (h.known name hname)
  · rw [hnames]
    exact h.distinct
  · rw [hnames, sum_map_raised h.distinct (mem_names_iff.mpr hknown), ← h.updates]

theorem Tallied.entry (h : Tallied n v) (hentry : Entry v w) : ∃ n', Tallied n' w := by
  cases hentry with
  | registered id t unknown => exact ⟨n, h.registered unknown t⟩
  | settled id m grad t o known due update => exact ⟨_, h.settled known update⟩
  | _ => exact ⟨n, h.regular, h.counted, h.known, h.distinct, h.updates⟩

end Tallied

/-! ## Sessions -/

/-- The server and the host after some requests, with the log of these, where the optimizer serves
others as well: between the requests anything may happen to it, and to the arrays. -/
inductive SharedSession (start : LocalServer × Host) :
    List Exchange → LocalServer × Host → Prop
  | nil : SharedSession start [] start
  | call {log : List Exchange} {x : LocalServer × Host} (before : SharedSession start log x)
      (r : Request) :
      SharedSession start (log ++ [⟨r, x.2, (r.step.runFrom x).1⟩]) (r.step.runFrom x).2
  | elsewhere {log : List Exchange} {x : LocalServer × Host}
      (before : SharedSession start log x) (o : Optimizer) (k : Host) :
      SharedSession start log ({ x.1 with optimizer := o }, k)

theorem SharedSession.booked {o : Optimizer} {h : Host} {log : List Exchange}
    {x : LocalServer × Host} (hsession : SharedSession (LocalServer.new o, h) log x) :
    x.1.Booked := by
  induction hsession with
  | nil => exact booked_new o
  | call before r ih => exact ih.request r
  | elsewhere before o' k ih => exact ih.withOptimizer o'

theorem Session.tallied {o : Optimizer} {h : Host} {log : List Exchange} {x : LocalServer × Host}
    (ho : o.Regular) (hcounts : o.counts = []) (hsession : Session (LocalServer.new o, h) log x)
    (hfaultless : Faultless log) : ∃ n, Tallied n x.1 := by
  induction hsession with
  | nil => exact ⟨_, tallied_new ho hcounts⟩
  | @call log x before r ih =>
    obtain ⟨hbefore, hresult, hopen⟩ := hfaultless.append
    obtain ⟨n, hn⟩ := ih hbefore
    rcases Request.entry x r with hentry | ⟨⟨fault, hfault⟩, -⟩ | hclose
    · exact hn.entry hentry
    · rw [show (r.step.runFrom x).1 = .ok () from hresult] at hfault
      cases hfault
    · exact absurd hclose hopen
  | elsewhere before evolved ih => exact ih hfaultless

/-- No other server need be there. -/
theorem Session.shared {start x : LocalServer × Host} {log : List Exchange}
    (h : Session start log x) : SharedSession start log x := by
  induction h with
  | nil => exact .nil
  | call before r ih => exact ih.call r
  | @elsewhere log x k before evolved ih => exact ih.elsewhere x.1.optimizer k

/-- Whatever is asked of a server, and whatever else its optimizer is used for, its books are in
order.  If the optimizer has served no other, no call has failed and the server was not closed, then
the updates of the server are those that the optimizer has counted, over all parameters; the
parameters that are not registered were not updated. -/
theorem books_in_order (o : Optimizer) (h : Host) :
    (∀ log x, SharedSession (LocalServer.new o, h) log x → x.1.Booked) ∧
      (o.Reached → o.counts = [] → ∀ log x, Session (LocalServer.new o, h) log x →
        Faultless log → ∃ n : String → Nat, (∀ id, x.1.optimizer.count id = .int (n id)) ∧
          (∀ id, n id ≠ 0 → id ∈ x.1.masters.map Prod.fst) ∧ (x.1.masters.map Prod.fst).Nodup ∧
          x.1.counters.updates = ((x.1.masters.map Prod.fst).map n).sum) := by
  constructor
  · exact fun log x hsession => hsession.booked
  · intro hreached hcounts log x hsession hfaultless
    obtain ⟨n, hn⟩ := hsession.tallied hreached.regular hcounts hfaultless
    exact ⟨n, hn.counted, fun id hid => mem_names_iff.mpr (hn.known id hid), hn.distinct,
      hn.updates⟩

theorem reached_subtracting : subtracting.Reached :=
  .made (show Optimizer.ofName "sgd" [("learning_rate", .int 1), ("momentum", .int 0),
    ("weight_decay", .int 0), ("rescale_grad", .int 1)] = .ok subtracting from rfl)

/-- Three pushes and two pulls of two parameters make two updates, one of each. -/
theorem books_in_order_turns :
    Faultless (perform twoWeights turns).1 ∧ (perform twoWeights turns).2.1.Booked ∧
      ∃ n : String → Nat, (∀ id, (perform twoWeights turns).2.1.optimizer.count id = .int (n id)) ∧
        n "weight" + n "bias" = 2 := by
  have hfaultless : Faultless (perform twoWeights turns).1 := faultless_of_all (by decide +kernel)
  have hsession := session_perform twoWeights turns
  obtain ⟨hbooked, htallied⟩ := books_in_order subtracting twoWeights.2
  obtain ⟨n, hcounted, -, -, hupdates⟩ :=
    htallied reached_subtracting rfl _ _ hsession hfaultless
  have hnames : (perform twoWeights turns).2.1.masters.map Prod.fst = ["weight", "bias"] := by
    decide +kernel
  have htwo : (perform twoWeights turns).2.1.counters.updates = 2 := by decide +kernel
  rw [hnames, htwo] at hupdates
  refine ⟨hfaultless, hbooked _ _ hsession.shared, n, hcounted, ?_⟩
  simpa using hupdates.symm

end LocalServer

end DataParallel

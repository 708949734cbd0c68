import DataParallel.Proofs.Server.Refinement

/-!
# Calls of the local server that fail

An init call or a push that fails has only been counted.  A pull can fail in three places: the
parameter is not registered, the optimizer refuses the update, or an array refuses the new master.
In the last case the update has been made, and the pull has done everything that a pull into the
arrays before this one would have done.
-/

namespace DataParallel

open Step

namespace LocalServer

/-! ## Parts of calls -/

theorem runFrom_master (id : String) (x : LocalServer × Host) :
    (master id).runFrom x = ((x.1.get? id).elim (.error (.unregistered id)) .ok, x) := by
  rw [master, runFrom_bind_of_ok (runFrom_get _), get?]
  rcases x.1.masters.lookup id with _ | t
  · rfl
  · rfl

theorem master_error {id : String} {fault : Fault} {x y : LocalServer × Host}
    (hrun : (master id).runFrom x = (.error fault, y)) :
    y = x ∧ x.1.get? id = none ∧ fault = .unregistered id := by
  rw [runFrom_master] at hrun
  rcases hm : x.1.get? id with _ | t
  · rw [hm] at hrun
    obtain ⟨hfault, hy⟩ := Prod.mk.inj hrun
    exact ⟨hy.symm, rfl, (Except.error.inj hfault).symm⟩
  · rw [hm] at hrun
    cases hrun

theorem runFrom_total_snd (sum : Option Tensor) (arrays : List ArrayId) (x : LocalServer × Host) :
    ((total sum arrays).runFrom x).2 = x := by
  have hread : ∀ a, ((read a).runFrom x).2 = x := by
    intro a
    rw [runFrom_read (v := x.1) (h := x.2) a]
  induction arrays generalizing sum with
  | nil =>
    rw [total]
    rfl
  | cons a rest ih =>
    rcases hrun : (read a).runFrom x with ⟨fault | t, y⟩
    · have hy : y = x := (congrArg Prod.snd hrun).symm.trans (hread a)
      cases sum with
      | none => rw [total, runFrom_bind_of_error hrun, hy]
      | some sum => rw [total, runFrom_bind_of_error hrun, hy]
    · have hy : y = x := (congrArg Prod.snd hrun).symm.trans (hread a)
      rw [hy] at hrun
      cases sum with
      | none =>
        rw [total, runFrom_bind_of_ok hrun]
        exact ih (some t)
      | some sum =>
        rw [total, runFrom_bind_of_ok hrun, runFrom_bind, runFrom_ofExcept]
        rcases sum.combine .add t with fault | next
        · rfl
        · exact ih (some next)

/-! ## Init and push -/

/-- The call has been counted, and nothing else. -/
def Counted (x y : LocalServer × Host) : Prop :=
  ∃ counters, y = ({ x.1 with counters := counters }, x.2)

theorem push_error {id : String} {gradients : List ArrayId} {priority : Int} {fault : Fault}
    {x y : LocalServer × Host}
    (hrun : (push id gradients priority).runFrom x = (.error fault, y)) : Counted x y := by
  rcases runFrom_bind_eq_error hrun with hmaster | ⟨m, x₁, hmaster, hrun⟩
  · exact ⟨x.1.counters, (master_error hmaster).1⟩
  · rw [(master_ok hmaster).1, runFrom_bind_of_ok (runFrom_modify _ _)] at hrun
    rcases runFrom_bind_eq_error hrun with htotal | ⟨sum, x₂, htotal, hrun⟩
    · have hsame := runFrom_total_snd none gradients
        ({ x.1 with counters.pushes := x.1.counters.pushes + 1 }, x.2)
      rw [htotal] at hsame
      exact ⟨_, hsame⟩
    · rw [(total_ok htotal).1] at hrun
      cases sum with
      | none => cases hrun
      | some sum =>
        rw [runFrom_bind_of_ok (runFrom_get _)] at hrun
        dsimp only at hrun
        split at hrun
        · cases hrun
        · rcases runFrom_bind_eq_error hrun with hadd | ⟨t, x₃, -, hrun⟩
          · exact ⟨_, (Prod.mk.inj hadd).2.symm⟩
          · cases hrun

/-! ## Pull -/

/-- The arrays before the one that refused the tensor were written. -/
theorem writeAll_error {t : Tensor} {arrays : List ArrayId} {fault : Fault}
    {x y : LocalServer × Host} (hrun : (writeAll t arrays).runFrom x = (.error fault, y)) :
    ∃ done a rest, arrays = done ++ a :: rest ∧ (writeAll t done).runFrom x = (.ok (), y) ∧
      (Pool.set a t).runFrom y.2.pool = (.error fault, y.2.pool) := by
  induction arrays generalizing x with
  | nil => cases hrun
  | cons a rest ih =>
    rcases runFrom_bind_eq_error hrun with hset | ⟨_, x₁, hset, hrun⟩
    · obtain ⟨hresult, hy⟩ := Prod.mk.inj hset
      have hpool : (Pool.set a t).runFrom x.2.pool =
          (.error fault, ((Pool.set a t).runFrom x.2.pool).2) := Prod.ext hresult rfl
      have hsame := Pool.set_error hpool
      have hyx : y = x := by
        rw [← hy]
        show (x.1, { x.2 with pool := ((Pool.set a t).runFrom x.2.pool).2 }) = x
        rw [hsame]
      rw [hsame] at hpool
      refine ⟨[], a, rest, rfl, ?_, ?_⟩
      · rw [hyx]
        rfl
      · rw [hyx]
        exact hpool
    · obtain ⟨done, b, others, harrays, hdone, hrefused⟩ := ih hrun
      refine ⟨a :: done, b, others, ?_, ?_, hrefused⟩
      · rw [harrays, List.cons_append]
      · rw [writeAll, runFrom_bind_of_ok hset]
        exact hdone

/-- If the optimizer refuses the update, the gradient has been taken, and nothing else. -/
theorem settle_error {id : String} {fault : Fault} {x y : LocalServer × Host}
    (hrun : (settle id).runFrom x = (.error fault, y)) (hknown : (x.1.get? id).isSome) :
    ∃ w grad o, x.1.get? id = some w ∧ x.1.pending.lookup id = some grad ∧
      (Optimizer.update id w grad).runFrom x.1.optimizer = (.error fault, o) ∧
      y = ({ x.1 with pending := Keyed.drop id x.1.pending, optimizer := o }, x.2) := by
  rcases runFrom_bind_eq_error hrun with hmaster | ⟨w, x₁, hmaster, hrun⟩
  · rw [(master_error hmaster).2.1] at hknown
    cases hknown
  obtain ⟨hx₁, hw⟩ := master_ok hmaster
  have htake : (takePending id).runFrom x = (.ok (x.1.pending.lookup id),
      { x.1 with pending := Keyed.drop id x.1.pending }, x.2) := rfl
  rw [hx₁, runFrom_bind_of_ok htake] at hrun
  rcases hgrad : x.1.pending.lookup id with _ | grad
  · rw [hgrad] at hrun
    cases hrun
  · rw [hgrad] at hrun
    rcases runFrom_bind_eq_error hrun with hupdate | ⟨w', x₂, -, hrun⟩
    · obtain ⟨hresult, hy⟩ := Prod.mk.inj hupdate
      exact ⟨w, grad, _, hw, rfl, Prod.ext hresult rfl, hy.symm⟩
    · cases hrun

/-- Where a pull that failed has stopped, and what it has done before. -/
theorem pull_error_cases {id : String} {weights : List ArrayId} {fault : Fault}
    {x y : LocalServer × Host} (hrun : (pull id weights).runFrom x = (.error fault, y)) :
    (x.1.get? id = none ∧ fault = .unregistered id ∧ y = x) ∨
    (∃ w grad o counters, x.1.get? id = some w ∧ x.1.pending.lookup id = some grad ∧
      (Optimizer.update id w grad).runFrom x.1.optimizer = (.error fault, o) ∧
      y = ({ x.1 with
        counters := counters, pending := Keyed.drop id x.1.pending, optimizer := o }, x.2)) ∨
    ∃ done a rest w, weights = done ++ a :: rest ∧ (pull id done).runFrom x = (.ok (), y) ∧
      y.1.get? id = some w ∧ (Pool.set a w).runFrom y.2.pool = (.error fault, y.2.pool) := by
  rcases runFrom_bind_eq_error hrun with hmaster | ⟨m, x₁, hmaster, hrun⟩
  · obtain ⟨hsame, hunknown, hfault⟩ := master_error hmaster
    exact Or.inl ⟨hunknown, hfault, hsame⟩
  apply Or.inr
  obtain ⟨hx₁, hm⟩ := master_ok hmaster
  rw [hx₁] at hmaster
  rw [hx₁, runFrom_bind_of_ok (runFrom_modify _ _)] at hrun
  rcases runFrom_bind_eq_error hrun with hsettle | ⟨_, x₂, hsettle, hrun⟩
  · obtain ⟨w, grad, o, hw, hgrad, hupdate, hy⟩ :=
      settle_error hsettle (Option.isSome_of_eq_some hm)
    exact Or.inl ⟨w, grad, o, _, hw, hgrad, hupdate, hy⟩
  · obtain ⟨-, w, hsettled⟩ := settle_ok hsettle
    have hmaster' : (master id).runFrom x₂ = (.ok w, x₂) := by
      rw [runFrom_master, hsettled.master]
      rfl
    rw [runFrom_bind_of_ok hmaster'] at hrun
    obtain ⟨done, a, rest, hweights, hdone, hset⟩ := writeAll_error hrun
    refine Or.inr ⟨done, a, rest, w, hweights, ?_, ?_, hset⟩
    · rw [pull, runFrom_bind_of_ok hmaster, runFrom_bind_of_ok (runFrom_modify _ _),
        runFrom_bind_of_ok hsettle, runFrom_bind_of_ok hmaster', hdone]
    · rw [(writeAll_ok hdone).1]
      exact hsettled.master

end LocalServer

end DataParallel

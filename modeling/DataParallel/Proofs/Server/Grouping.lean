import DataParallel.Proofs.Server.FailedCall
import DataParallel.Proofs.Server.Unread
import DataParallel.Proofs.Tensor.Wrapping

/-!
# Gradients in groups

Between two pulls, the gradients of a parameter may come in any number of pushes.  If they are
integers of one type and shape, their sum is exact up to whole turns, so it depends neither on the
order of the gradients nor on how they are grouped.  What the next pull does depends on the sum
alone: the priorities and the number of pushes are not read.
-/

namespace DataParallel

open Step

namespace LocalServer

variable {d : Dtype} {s : Shape}

/-! ## What is due -/

theorem merged_wrappingSum {ts us : List Tensor} (hd : d.element.isInteger = true)
    (hts : ∀ t ∈ ts, t.Of d s) (hus : ∀ t ∈ us, t.Of d s) :
    merged (Tensor.wrappingSum d s ts) (Tensor.wrappingSum d s us) =
      .ok (Tensor.wrappingSum d s (ts ++ us)) := by
  rcases hu : Tensor.wrappingSum d s us with _ | u
  · rw [Tensor.wrappingSum_eq_none.mp hu, List.append_nil]
    rcases Tensor.wrappingSum d s ts with _ | t <;> rfl
  · rcases ht : Tensor.wrappingSum d s ts with _ | t
    · rw [Tensor.wrappingSum_eq_none.mp ht, List.nil_append, hu]
      rfl
    · obtain ⟨v, hv, hsum⟩ := Tensor.combine_wrappingSum hd hts hus ht hu
      rw [merged, hv, hsum]
      rfl

/-- Gradients are added to the sum of those before them. -/
theorem due_wrappingSum {ts us : List Tensor} (hd : d.element.isInteger = true)
    (hts : ∀ t ∈ ts, t.Of d s) (hus : ∀ t ∈ us, t.Of d s) :
    due (Tensor.wrappingSum d s ts) us = .ok (Tensor.wrappingSum d s (ts ++ us)) := by
  rw [due, Tensor.sum?_eq_wrappingSum hd hus, ok_bind]
  exact merged_wrappingSum hd hts hus

/-! ## Pushes that succeed -/

/-- The contents of arrays that are all open. -/
theorem mapM_contents_cons {p : Pool} {a : ArrayId} {rest : List ArrayId} {grads : List Tensor}
    (h : (a :: rest).mapM p.contents? = some grads) :
    ∃ t ts, p.contents? a = some t ∧ rest.mapM p.contents? = some ts ∧ grads = t :: ts := by
  rw [List.mapM_cons] at h
  obtain ⟨t, ht, h⟩ := Option.bind_eq_some_iff.mp h
  obtain ⟨ts, hts, h⟩ := Option.bind_eq_some_iff.mp h
  exact ⟨t, ts, ht, hts, (Option.some.inj h).symm⟩

section Total

variable {arrays : List ArrayId} {grads : List Tensor} {x : LocalServer × Host}

theorem runFrom_read_of_eq {a : ArrayId} {t : Tensor} (h : x.2.pool.contents? a = some t) :
    (read a).runFrom x = (.ok t, x) := by
  rw [runFrom_read (v := x.1) (h := x.2) a, h]
  rfl

theorem runFrom_total_some {t sum : Tensor}
    (hopened : arrays.mapM x.2.pool.contents? = some grads)
    (hsum : grads.foldlM (fun sum u => sum.combine .add u) t = .ok sum) :
    (total (some t) arrays).runFrom x = (.ok (some sum), x) := by
  induction arrays generalizing t grads with
  | nil =>
    obtain rfl := Option.some.inj hopened
    obtain rfl := Except.ok.inj hsum
    rw [total]
    rfl
  | cons a rest ih =>
    obtain ⟨u, us, hu, hus, rfl⟩ := mapM_contents_cons hopened
    rw [List.foldlM_cons] at hsum
    obtain ⟨next, hnext, hsum⟩ := exists_of_bind_eq_ok hsum
    rw [total, runFrom_bind_of_ok (runFrom_read_of_eq hu), hnext,
      runFrom_bind_of_ok (runFrom_ofExcept _ _)]
    exact ih hus hsum

theorem runFrom_total {sum : Option Tensor}
    (hopened : arrays.mapM x.2.pool.contents? = some grads)
    (hsum : Tensor.sum? grads = .ok sum) : (total none arrays).runFrom x = (.ok sum, x) := by
  rcases arrays with _ | ⟨a, rest⟩
  · obtain rfl := Option.some.inj hopened
    obtain rfl := Except.ok.inj hsum
    rw [total]
    rfl
  · obtain ⟨t, ts, ht, hts, rfl⟩ := mapM_contents_cons hopened
    rcases hfold : ts.foldlM (fun sum u => sum.combine .add u) t with fault | v
    · rw [Tensor.sum?, hfold] at hsum
      cases hsum
    · rw [Tensor.sum?, hfold] at hsum
      obtain rfl := Except.ok.inj hsum
      rw [total, runFrom_bind_of_ok (runFrom_read_of_eq ht)]
      exact runFrom_total_some hts hfold

end Total

/-- The server with another sum pending for a parameter, if there is one. -/
def withPending (id : String) (sum : Option Tensor) (v : LocalServer) : LocalServer :=
  { v with pending := sum.elim v.pending fun t => Keyed.put id t v.pending }

theorem withPending_same (id : String) (v : LocalServer) :
    withPending id (v.pending.lookup id) v = v := by
  rw [withPending]
  rcases h : v.pending.lookup id with _ | old
  · rfl
  · dsimp only [Option.elim]
    rw [Keyed.put_of_lookup_eq_some h]

theorem lookup_withPending {id : String} {v : LocalServer} (hnone : v.pending.lookup id = none)
    (sum : Option Tensor) : (withPending id sum v).pending.lookup id = sum := by
  rcases sum with _ | t
  · exact hnone
  · exact (Keyed.lookup_put id t v.pending id).trans (if_pos rfl)

theorem Alike.withPending {v w : LocalServer} (h : Alike v w) (id : String) (sum : Option Tensor) :
    Alike (LocalServer.withPending id sum v) (LocalServer.withPending id sum w) :=
  ⟨h.optimizer, h.masters, by rw [LocalServer.withPending, LocalServer.withPending, h.pending],
    h.updated⟩

/-- A later sum takes the place of the one before. -/
theorem withPending_again {id : String} {sum sum' : Option Tensor} {v : LocalServer}
    (h : sum' = none → sum = none) :
    withPending id sum' (withPending id sum v) = withPending id sum' v := by
  rcases sum' with _ | t'
  · rw [h rfl]
    rfl
  · rcases sum with _ | t
    · rfl
    · simp only [withPending, Option.elim, Keyed.put_put]

/-- A push of open arrays whose contents can be added to what is pending. -/
theorem runFrom_push {id : String} {arrays : List ArrayId} {grads : List Tensor}
    {sum : Option Tensor} {x : LocalServer × Host} (hknown : (x.1.get? id).isSome)
    (hopened : arrays.mapM x.2.pool.contents? = some grads)
    (hdue : due (x.1.pending.lookup id) grads = .ok sum) (priority : Int) :
    ∃ w, (push id arrays priority).runFrom x = (.ok (), w, x.2) ∧
      Alike w (withPending id sum x.1) := by
  obtain ⟨m, hm⟩ := Option.isSome_iff_exists.mp hknown
  obtain ⟨added, hadded, hmerged⟩ := exists_of_bind_eq_ok hdue
  have hmaster : (master id).runFrom x = (.ok m, x) := by
    rw [runFrom_master, hm]
    rfl
  have htotal : (total none arrays).runFrom
      ({ x.1 with counters.pushes := x.1.counters.pushes + 1 }, x.2) =
      (.ok added, { x.1 with counters.pushes := x.1.counters.pushes + 1 }, x.2) :=
    runFrom_total hopened hadded
  rw [push, runFrom_bind_of_ok hmaster, runFrom_bind_of_ok (runFrom_modify _ _),
    runFrom_bind_of_ok htotal]
  rcases added with _ | t
  · -- There is nothing to add, so what is pending stays.
    obtain rfl : x.1.pending.lookup id = sum := by
      rcases hold : x.1.pending.lookup id with _ | old
      · rw [hold] at hmerged
        exact Except.ok.inj hmerged
      · rw [hold] at hmerged
        exact Except.ok.inj hmerged
    rw [withPending_same]
    exact ⟨_, rfl, ⟨rfl, rfl, rfl, rfl⟩⟩
  · rw [runFrom_bind_of_ok (runFrom_get _)]
    dsimp only
    rcases hold : x.1.pending.lookup id with _ | old
    · rw [hold] at hmerged
      obtain rfl := Except.ok.inj hmerged
      exact ⟨_, rfl, ⟨rfl, rfl, rfl, rfl⟩⟩
    · rw [hold] at hmerged
      rcases hadd : old.combine .add t with fault | v
      · rw [merged, hadd] at hmerged
        cases hmerged
      · rw [merged, hadd] at hmerged
        obtain rfl := Except.ok.inj hmerged
        dsimp only
        rw [hadd]
        exact ⟨_, rfl, ⟨rfl, rfl, rfl, rfl⟩⟩

/-! ## Series of pushes -/

/-- Gradients of a parameter are pushed in groups, from open arrays, and nothing else is asked of
the server.  Between the pushes something may happen to the arrays. -/
inductive Series (id : String) (start : LocalServer × Host) :
    List (List Tensor) → List Exchange → LocalServer × Host → Prop
  | nil : Series id start [] [] start
  | push {groups : List (List Tensor)} {log : List Exchange} {x : LocalServer × Host}
      (before : Series id start groups log x) {arrays : List ArrayId} {grads : List Tensor}
      (opened : arrays.mapM x.2.pool.contents? = some grads) (priority : Int) :
      Series id start (groups ++ [grads])
        (log ++ [⟨.push id arrays priority, x.2,
          ((LocalServer.push id arrays priority).runFrom x).1⟩])
        ((LocalServer.push id arrays priority).runFrom x).2
  | elsewhere {groups : List (List Tensor)} {log : List Exchange} {x : LocalServer × Host}
      {k : Host} (before : Series id start groups log x) (evolved : x.2.Evolves k) :
      Series id start groups log (x.1, k)

theorem Series.session {id : String} {start x : LocalServer × Host} {groups : List (List Tensor)}
    {log : List Exchange} (h : Series id start groups log x) : Session start log x := by
  induction h with
  | nil => exact .nil
  | @push _ _ _ before arrays _ opened priority ih => exact ih.call (.push id arrays priority)
  | elsewhere before evolved ih => exact ih.elsewhere evolved

/-- By induction on the series: every push succeeds, and the sum of all gradients so far is
pending. -/
theorem Series.pending {id : String} {v : LocalServer} {h : Host} {groups : List (List Tensor)}
    {log : List Exchange} {x : LocalServer × Host} (hd : d.element.isInteger = true)
    (hknown : (v.get? id).isSome) (hnone : v.pending.lookup id = none)
    (hseries : Series id (v, h) groups log x) (hgrads : ∀ t ∈ groups.flatten, t.Of d s) :
    (∀ e ∈ log, e.result = .ok ()) ∧
      Alike x.1 (withPending id (Tensor.wrappingSum d s groups.flatten) v) := by
  induction hseries with
  | nil => exact ⟨nofun, .refl v⟩
  | @push groups log x before arrays grads opened priority ih =>
    rw [List.flatten_append, List.flatten_singleton] at hgrads ⊢
    obtain ⟨hbefore, hgroup⟩ := List.forall_mem_append.mp hgrads
    obtain ⟨hlog, hx⟩ := ih hbefore
    have hlookup : x.1.pending.lookup id = Tensor.wrappingSum d s groups.flatten := by
      rw [hx.pending]
      exact lookup_withPending hnone _
    have hdue : due (x.1.pending.lookup id) grads =
        .ok (Tensor.wrappingSum d s (groups.flatten ++ grads)) := by
      rw [hlookup]
      exact due_wrappingSum hd hbefore hgroup
    have hregistered : (x.1.get? id).isSome := by
      rw [hx.get?_eq]
      exact hknown
    obtain ⟨w, hrun, hw⟩ := runFrom_push hregistered opened hdue priority
    rw [hrun]
    constructor
    · exact List.forall_mem_append.mpr ⟨hlog, by simp⟩
    · refine (hw.trans (hx.withPending id _)).trans ?_
      rw [withPending_again]
      · exact .refl _
      · intro hnothing
        rw [Tensor.wrappingSum_eq_none, List.append_eq_nil_iff] at hnothing
        exact Tensor.wrappingSum_eq_none.mpr hnothing.1
  | elsewhere before evolved ih => exact ih hgrads

/-- The same gradients, in whatever order and in whatever groups they are pushed, leave the same
sum pending, and the next pull, into whatever arrays, has the same result and leaves the same
arrays, masters and optimizer. -/
theorem grouped_in_any_way {id : String} {v : LocalServer} {h h' : Host}
    {groups groups' : List (List Tensor)} {log log' : List Exchange} {x x' : LocalServer × Host}
    (hd : d.element.isInteger = true) (hknown : (v.get? id).isSome)
    (hnone : v.pending.lookup id = none) (hseries : Series id (v, h) groups log x)
    (hseries' : Series id (v, h') groups' log' x') (hgrads : ∀ t ∈ groups.flatten, t.Of d s)
    (hperm : groups.flatten.Perm groups'.flatten) :
    (∀ e ∈ log ++ log', e.result = .ok ()) ∧
    x.1.pending.lookup id = Tensor.wrappingSum d s groups.flatten ∧
    Alike x.1 x'.1 ∧
    ∀ weights k, ∃ r w w' k', (pull id weights).runFrom (x.1, k) = (r, w, k') ∧
      (pull id weights).runFrom (x'.1, k) = (r, w', k') ∧ Alike w w' := by
  have hgrads' : ∀ t ∈ groups'.flatten, t.Of d s := fun t ht => hgrads t (hperm.mem_iff.mpr ht)
  obtain ⟨hlog, hx⟩ := hseries.pending hd hknown hnone hgrads
  obtain ⟨hlog', hx'⟩ := hseries'.pending hd hknown hnone hgrads'
  rw [← Tensor.wrappingSum_perm d s hperm] at hx'
  have halike : Alike x.1 x'.1 := hx.trans hx'.symm
  refine ⟨List.forall_mem_append.mpr ⟨hlog, hlog'⟩, ?_, halike, halike.pull id⟩
  rw [hx.pending]
  exact lookup_withPending hnone _

/-- Two elements that are one whole number of eight bytes. -/
def pairOf (n : Nat) : Tensor := .fill .int64 [2] (BitVec.ofNat 64 n)

theorem of_pairOf (n : Nat) : (pairOf n).Of .int64 [2] := ⟨rfl, rfl⟩

/-- A server that knows one weight, with three gradients; the first two together make a whole
turn. -/
def threeGradients : LocalServer × Host :=
  (perform (LocalServer.new .sgd,
    hostWith [.zeros .float32 [2], pairOf (2 ^ 63), pairOf (2 ^ 63), pairOf 5])
    [.init "weight" [⟨0⟩]]).2

theorem grouped_in_any_way_turn :
    ∃ log log' x x',
      Series "weight" threeGradients [[pairOf (2 ^ 63), pairOf (2 ^ 63)], [pairOf 5]] log x ∧
      Series "weight" threeGradients [[], [pairOf 5, pairOf (2 ^ 63), pairOf (2 ^ 63)]] log' x' ∧
      x.1.pending.lookup "weight" = some (pairOf 5) ∧ Alike x.1 x'.1 := by
  have hstart : Series "weight" threeGradients [] [] threeGradients := .nil
  have hseries := (hstart.push (show [⟨1⟩, ⟨2⟩].mapM threeGradients.2.pool.contents? =
    some [pairOf (2 ^ 63), pairOf (2 ^ 63)] by decide +kernel) 0).push
      (show [⟨3⟩].mapM _ = some [pairOf 5] by decide +kernel) 0
  have hseries' := (hstart.push (show [].mapM threeGradients.2.pool.contents? = some [] from rfl)
    (-1)).push (show [⟨3⟩, ⟨1⟩, ⟨2⟩].mapM _ =
      some [pairOf 5, pairOf (2 ^ 63), pairOf (2 ^ 63)] by decide +kernel) 1
  obtain ⟨-, hpending, halike, -⟩ := grouped_in_any_way (d := .int64) (s := [2]) rfl
    (by decide +kernel) (by decide +kernel) hseries hseries' (by simp [of_pairOf])
    (by decide +kernel)
  refine ⟨_, _, _, _, hseries, hseries', ?_, halike⟩
  rw [hpending]
  decide +kernel

end LocalServer

end DataParallel

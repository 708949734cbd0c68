import DataParallel.Proofs.Server.Local
import DataParallel.Proofs.Store.Consistent

/-!
# Rounds over a local server

A round pushes what the gradients of a parameter hold at its beginning, and
makes the next master of every trainable parameter from the master before.
Parameters do not meet in the server, so that the order in which they are
pulled does not matter, and the pool changes only in the buffers of replicas.
-/

namespace DataParallel

open Step

namespace Store

variable {σ : Type}

/-- What the gradients of the replicas of a parameter hold, in slot order. -/
def gradientContents (x : Store σ × Host) (id : String) : List Tensor :=
  (x.1.replicas id).filterMap fun b => (x.2.pool.gradient? b).bind x.2.pool.contents?

/-! ## Before the server is called -/

theorem checkPlaced_ok {ids : List String} {x y : Store σ × Host}
    (hrun : (checkPlaced ids).runFrom x = (.ok (), y)) :
    y = x ∧ ∀ id ∈ ids, ∀ e, x.1.find? id = some e → e.failed = false := by
  induction ids with
  | nil => exact ⟨(Prod.mk.inj hrun).2.symm, fun _ hmem => by cases hmem⟩
  | cons id rest ih =>
    rw [checkPlaced, runFrom_bind_of_ok (runFrom_get _)] at hrun
    dsimp only at hrun
    split at hrun
    · cases hrun
    · next hplaced =>
      obtain ⟨hy, hrest⟩ := ih hrun
      refine ⟨hy, fun name hmem e hfind => ?_⟩
      rcases List.mem_cons.mp hmem with rfl | hmem
      · rw [hfind] at hplaced
        simpa using hplaced
      · exact hrest name hmem e hfind

theorem gradients_ok {arrays gs : List ArrayId} {x y : Store σ × Host}
    (hrun : (gradients arrays).runFrom x = (.ok gs, y)) :
    y = x ∧ gs.length = arrays.length ∧ gs.filterMap x.2.pool.contents? =
      arrays.filterMap fun b => (x.2.pool.gradient? b).bind x.2.pool.contents? := by
  induction arrays generalizing gs y with
  | nil =>
    obtain ⟨hgs, hy⟩ := Prod.mk.inj hrun
    rw [← Except.ok.inj hgs]
    exact ⟨hy.symm, rfl, rfl⟩
  | cons a rest ih =>
    obtain ⟨g, x₁, hgradient, hrun⟩ := runFrom_bind_eq_ok hrun
    obtain ⟨others, x₂, hrest, hrun⟩ := runFrom_bind_eq_ok hrun
    obtain ⟨hgs, hy⟩ := Prod.mk.inj hrun
    have hg : x₁ = x ∧ x.2.pool.gradient? a = some g := by
      obtain ⟨hresult, hx₁⟩ := Prod.mk.inj hgradient
      obtain ⟨hpool, hg⟩ := Pool.gradient_ok (Prod.ext hresult rfl)
      refine ⟨?_, hg⟩
      rw [← hx₁]
      exact congrArg (fun p => (x.1, { x.2 with pool := p })) hpool
    rw [hg.1] at hrest
    obtain ⟨hx₂, hlength, hothers⟩ := ih hrest
    rw [← Except.ok.inj hgs]
    refine ⟨by rw [← hy, hx₂], ?_, ?_⟩
    · rw [List.length_cons, List.length_cons, hlength]
    · rw [List.filterMap_cons, List.filterMap_cons, hg.2, hothers]
      rfl

/-! ## The push pass -/

/-- What the server has after the gradients of parameters were pushed. -/
structure Pushed (x : Store LocalServer × Host) (ids : List String) (v w : LocalServer) :
    Prop where
  optimizer : w.optimizer = v.optimizer
  masters : w.masters = v.masters
  /-- No replica was without a gradient, and no gradient was closed. -/
  full : ∀ id ∈ ids, (gradientContents x id).length = (x.1.replicas id).length
  own : ∀ id ∈ ids, LocalServer.due (v.pending.lookup id) (gradientContents x id) =
    .ok (w.pending.lookup id)
  other : ∀ id, id ∉ ids → w.pending.lookup id = v.pending.lookup id

theorem onServer_ok {v : σ} {step : Step (σ × Host) Unit} {x y : Store σ × Host}
    (hv : x.1.server = some v) (hrun : (onServer step).runFrom x = (.ok (), y)) :
    ∃ w, y.1 = { x.1 with server := some w } ∧ step.runFrom (v, x.2) = (.ok (), w, y.2) := by
  obtain ⟨s, h⟩ := x
  rw [runFrom_onServer hv] at hrun
  obtain ⟨hresult, hstate⟩ := Prod.mk.inj hrun
  refine ⟨(step.runFrom (v, h)).2.1, ?_, ?_⟩
  · rw [← hstate]
  · rw [← hstate]
    exact Prod.ext hresult rfl

theorem pushAll_ok {ids : List String} {rank : Nat} {x y : Store LocalServer × Host}
    {v : LocalServer} (hv : x.1.server = some v) (hnodup : ids.Nodup)
    (hrun : (pushAll rank ids).runFrom x = (.ok (), y)) :
    ∃ w, y = ({ x.1 with server := some w }, x.2) ∧ Pushed x ids v w := by
  induction ids generalizing rank x v with
  | nil =>
    refine ⟨v, ?_, ⟨rfl, rfl, fun _ hmem => (by cases hmem), fun _ hmem => (by cases hmem),
      fun _ _ => rfl⟩⟩
    rw [← hv]
    exact (Prod.mk.inj hrun).2.symm
  | cons id rest ih =>
    obtain ⟨hid, hrest⟩ := List.nodup_cons.mp hnodup
    rw [pushAll, runFrom_bind_of_ok (runFrom_get _)] at hrun
    obtain ⟨gs, x₁, hgradients, hrun⟩ := runFrom_bind_eq_ok hrun
    obtain ⟨hx₁, hlength, hgs⟩ := gradients_ok hgradients
    rw [hx₁] at hrun
    obtain ⟨_, x₂, hpush, hrun⟩ := runFrom_bind_eq_ok hrun
    obtain ⟨u, hu, hpushed⟩ := onServer_ok hv hpush
    obtain ⟨hhost, hfilled, hgathered⟩ := LocalServer.push_ok hpushed
    have hown := hgathered.pending
    dsimp only at hhost hfilled hown
    have hfull : (gs.filterMap x.2.pool.contents?).length = gs.length :=
      List.filterMap_length_eq_length.mpr hfilled
    rw [hgs, hlength] at hfull
    rw [hgs] at hown
    have hx₂ : x₂ = ({ x.1 with server := some u }, x.2) := Prod.ext hu hhost
    rw [hx₂] at hrun
    obtain ⟨w, hy, hw⟩ := ih (x := ({ x.1 with server := some u }, x.2)) rfl hrest hrun
    refine ⟨w, hy, ⟨hw.optimizer.trans hgathered.optimizer,
      hw.masters.trans hgathered.masters, ?_, ?_, ?_⟩⟩
    · intro name hmem
      rcases List.mem_cons.mp hmem with rfl | hmem
      · exact hfull
      · exact hw.full name hmem
    · intro name hmem
      rcases List.mem_cons.mp hmem with rfl | hmem
      · rw [hw.other name hid]
        exact hown
      · have hne : name ≠ id := by
          intro heq
          rw [heq] at hmem
          exact hid hmem
        rw [← hw.own name hmem, (hgathered.others name hne).1]
        rfl
    · intro name hmem
      rw [hw.other name (List.not_mem_of_not_mem_cons hmem),
        (hgathered.others name (List.ne_of_not_mem_cons hmem)).1]

/-! ## The pull pass -/

/-- What the server and the pool are after parameters were pulled. -/
structure Pulled (replicas : String → List ArrayId) (ids : List String) (v w : LocalServer)
    (p q : Pool) : Prop where
  table : q.arrays = p.arrays
  evolves : p.Evolves q
  /-- The next master is made from the one before, as if no other parameter was there. -/
  own : ∀ id ∈ ids, ∃ m t o, v.get? id = some m ∧
    (Optimizer.advance id m (v.pending.lookup id)).runFrom v.optimizer = (.ok t, o) ∧
    Optimizer.Agree id o w.optimizer ∧ w.get? id = some t ∧ w.pending.lookup id = none
  other : ∀ id, id ∉ ids → w.get? id = v.get? id ∧
    Optimizer.Agree id v.optimizer w.optimizer ∧ w.pending.lookup id = v.pending.lookup id
  /-- Replicas that no other one shares its buffer with hold the master in their own type. -/
  contents : p.Sound → ∀ id ∈ ids, ∀ a ∈ replicas id,
    (∀ name ∈ ids, p.Clear a (replicas name) ∧ (name ≠ id → a ∉ replicas name)) →
    q.contents? a = (p.contents? a).bind fun u => (w.get? id).map fun t => t.cast u.dtype
  spared : p.Sound → ∀ a,
    (∀ name ∈ ids, p.Clear a (replicas name) ∧ a ∉ replicas name) →
    q.contents? a = p.contents? a

theorem Pulled.nil (replicas : String → List ArrayId) (v : LocalServer) (p : Pool) :
    Pulled replicas [] v v p p where
  table := rfl
  evolves := .refl p
  own _ hmem := by cases hmem
  other id _ := ⟨rfl, .refl id _, rfl⟩
  contents _ _ hmem := by cases hmem
  spared _ _ _ := rfl

/-- One more parameter was pulled before the others. -/
theorem Pulled.cons {replicas : String → List ArrayId} {id : String} {ids : List String}
    {v u w : LocalServer} {p q r : Pool} {t : Tensor} (hid : id ∉ ids)
    (hfirst : LocalServer.Settled id t v u) (hwritten : Pool.Overwritten p q (replicas id) t)
    (hrest : Pulled replicas ids u w q r) : Pulled replicas (id :: ids) v w p r where
  table := hrest.table.trans hwritten.table
  evolves := hwritten.evolves.trans hrest.evolves
  own := by
    intro name hmem
    by_cases hname : name = id
    · subst hname
      obtain ⟨m, hm, hrun⟩ := hfirst.update
      obtain ⟨hmaster, hagree, hpending⟩ := hrest.other name hid
      exact ⟨m, t, u.optimizer, hm, hrun, hagree, hmaster.trans hfirst.master,
        hpending.trans hfirst.taken⟩
    · obtain ⟨m', t', o, hm', hrun', hagree, hmaster, hpending⟩ :=
        hrest.own name ((List.mem_cons.mp hmem).resolve_left hname)
      obtain ⟨hsame, hsame'⟩ := hfirst.others name hname
      rw [hsame] at hm'
      rw [hsame'] at hrun'
      -- The update of the first parameter left the part of this one in the optimizer.
      obtain ⟨o', hrun'', hagree'⟩ := Optimizer.advance_of_agree (hfirst.agree hname).symm hrun'
      exact ⟨m', t', o', hm', hrun'', hagree'.symm.trans hagree, hmaster, hpending⟩
  other := by
    intro name hmem
    have hname : name ≠ id := List.ne_of_not_mem_cons hmem
    obtain ⟨hmaster, hagree, hpending⟩ :=
      hrest.other name (List.not_mem_of_not_mem_cons hmem)
    obtain ⟨hsame, hsame'⟩ := hfirst.others name hname
    exact ⟨hmaster.trans hsame, (hfirst.agree hname).trans hagree, hpending.trans hsame'⟩
  contents := by
    intro hp name hmem a ha hclear
    have hq := hwritten.evolves.sound hp
    have hclear' : ∀ other ∈ ids, q.Clear a (replicas other) ∧
        (other ≠ name → a ∉ replicas other) := by
      intro other hother
      obtain ⟨hfree, hout⟩ := hclear other (List.mem_cons_of_mem _ hother)
      exact ⟨hfree.congr hwritten.table, hout⟩
    obtain ⟨hfree, hout⟩ := hclear id (List.mem_cons_self ..)
    have hcontents := hwritten.contents hp a hfree
    by_cases hname : name = id
    · subst hname
      have hlater : r.contents? a = q.contents? a := by
        apply hrest.spared hq
        intro other hother
        refine ⟨(hclear' other hother).1, (hclear' other hother).2 ?_⟩
        rintro rfl
        exact hid hother
      rw [hlater, hcontents, if_pos ha, (hrest.other name hid).1, hfirst.master]
      exact Option.map_eq_bind
    · rw [if_neg (hout (Ne.symm hname))] at hcontents
      rw [hrest.contents hq name ((List.mem_cons.mp hmem).resolve_left hname) a ha hclear',
        hcontents]
  spared := by
    intro hp a hclear
    have hq := hwritten.evolves.sound hp
    obtain ⟨hfree, hout⟩ := hclear id (List.mem_cons_self ..)
    have hfirstly := hwritten.contents hp a hfree
    rw [if_neg hout] at hfirstly
    have hlater : r.contents? a = q.contents? a := by
      apply hrest.spared hq
      intro other hother
      obtain ⟨hfree', hout'⟩ := hclear other (List.mem_cons_of_mem _ hother)
      exact ⟨hfree'.congr hwritten.table, hout'⟩
    rw [hlater, hfirstly]

theorem pullAll_ok {ids : List String} {rank : Nat} {x y : Store LocalServer × Host}
    {v : LocalServer} (hv : x.1.server = some v) (hnodup : ids.Nodup)
    (hrun : (pullAll rank ids).runFrom x = (.ok (), y)) :
    ∃ w, y.1 = { x.1 with server := some w } ∧ Pulled x.1.replicas ids v w x.2.pool y.2.pool := by
  induction ids generalizing rank x v with
  | nil =>
    have hy : y = x := (Prod.mk.inj hrun).2.symm
    refine ⟨v, ?_, ?_⟩
    · rw [hy, ← hv]
    · rw [hy]
      exact .nil x.1.replicas v x.2.pool
  | cons id rest ih =>
    obtain ⟨hid, hrest⟩ := List.nodup_cons.mp hnodup
    rw [pullAll, runFrom_bind_of_ok (runFrom_get _)] at hrun
    obtain ⟨_, x₁, hpull, hrun⟩ := runFrom_bind_eq_ok hrun
    obtain ⟨u, hu, hpulled⟩ := onServer_ok hv hpull
    obtain ⟨t, hsettled, hwritten⟩ := LocalServer.pull_ok hpulled
    obtain ⟨w, hy, hw⟩ := ih (x := x₁) (v := u) (by rw [hu]) hrest hrun
    refine ⟨w, by rw [hy, hu], ?_⟩
    have hsame : x₁.1.replicas = x.1.replicas := by
      rw [hu]
      rfl
    rw [hsame] at hw
    exact .cons hid hsettled hwritten hw

/-! ## The round -/

/-- What a round over a local server has done that succeeded: nothing was
failed, the gradients were pushed, and then everything was pulled. -/
theorem updateAll_local {x y : Store LocalServer × Host} {v : LocalServer}
    (hnames : (x.1.entries.map Prod.fst).Nodup) (hv : x.1.server = some v)
    (hrun : updateAll.runFrom x = (.ok (), y)) :
    (∀ id ∈ x.1.trainable, ∀ e, x.1.find? id = some e → e.failed = false) ∧
    ∃ u w, y.1 = { x.1 with server := some w } ∧ Pushed x x.1.trainable v u ∧
      Pulled x.1.replicas x.1.trainable u w x.2.pool y.2.pool := by
  have hnodup := nodup_trainable hnames
  rw [updateAll, runFrom_bind_of_ok (runFrom_get _)] at hrun
  simp only [hv, Option.isNone_some, Bool.false_eq_true, ↓reduceIte] at hrun
  obtain ⟨_, x₁, hcheck, hrun⟩ := runFrom_bind_eq_ok hrun
  obtain ⟨hx₁, hplaced⟩ := checkPlaced_ok hcheck
  rw [hx₁] at hrun
  obtain ⟨_, x₂, hpush, hrun⟩ := runFrom_bind_eq_ok hrun
  obtain ⟨u, hx₂, hpushed⟩ := pushAll_ok hv hnodup hpush
  rw [hx₂] at hrun
  obtain ⟨w, hy, hpulled⟩ := pullAll_ok (v := u) rfl hnodup hrun
  exact ⟨hplaced, u, w, hy, hpushed, hpulled⟩

end Store

end DataParallel

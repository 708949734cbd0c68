import DataParallel.Proofs.Store.LocalRound
import DataParallel.Proofs.Store.LocalTouch
import DataParallel.Proofs.Store.PlacedOnce

/-!
# Masters outlive entries

A store builds replicas from the canonical array each time it places a
parameter, while a local server takes a master from them only if it has none.
So the two agree after a first touch if the parameter is new to the server,
and otherwise only if the canonical array still holds the master.  The next
round trains from the master in either case.
-/

namespace DataParallel

open Step

namespace Store

/-- The move comes between the first touch of a parameter and the next round:
the entry is kept, and nothing else changes the master. -/
def Move.Awaits (id : String) : Move LocalServer → Prop
  | .updateAll => False
  | .elsewhere change _ => ∀ v, (change v).get? id = v.get? id
  | move => move.Spares id

theorem Move.Awaits.spares {id : String} {move : Move LocalServer} (h : move.Awaits id) :
    move.Spares id := by
  rcases move with ⟨p, device⟩ | _ | ⟨server, devices⟩ | name | ⟨change, host⟩
  · exact h
  · exact False.elim h
  · exact h
  · exact h
  · exact trivial

section Waiting

variable {x y : Store LocalServer × Host} {v : LocalServer} {id : String} {m : Tensor}

/-- A first touch changes no master. -/
theorem Touched.get? {p : Parameter} {device : Device} {s : Store LocalServer} {h : Host}
    (htouched : Touched p device s h v y) (hm : v.get? id = some m) :
    ∃ w, y.1.server = some w ∧ w.get? id = some m := by
  cases htouched with
  | failed _ hlearns => exact ⟨_, rfl, hlearns.get? hm⟩
  | placed _ _ _ _ hlearns _ => exact ⟨_, rfl, hlearns.get? hm⟩

theorem Move.get?_of_awaits (hx : Consistent x) {move : Move LocalServer}
    (hmove : move.Possible x) (hawaits : move.Awaits id) (hv : x.1.server = some v)
    (hm : v.get? id = some m) :
    ∃ w, (move.after x).1.server = some w ∧ w.get? id = some m := by
  rcases move with ⟨p, device⟩ | _ | ⟨server, devices⟩ | name | ⟨change, host⟩
  · rw [Move.after]
    rcases getValue_local hx hv hmove device with hsame | ⟨-, htouched⟩
    · rw [hsame]
      exact ⟨v, hv, hm⟩
    · exact htouched.get? hm
  · exact False.elim hawaits
  · rcases setServer_cases x server devices with ⟨fault, hrun⟩ | ⟨u, r, k, hu, hr, -, -⟩
    · rw [Move.after, hrun]
      exact ⟨v, hv, hm⟩
    · rw [hawaits r hr] at hu
      cases hu
  · rcases name with _ | name
    · exact ⟨v, hv, hm⟩
    · exact ⟨v, hv, hm⟩
  · refine ⟨change v, ?_, ?_⟩
    · rw [Move.after, hv]
      rfl
    · rw [hawaits v, hm]

theorem Run.get?_of_awaits {moves : List (Move LocalServer)} (hrun : Run x moves y)
    (hx : Consistent x) (hawaits : ∀ move ∈ moves, move.Awaits id) (hv : x.1.server = some v)
    (hm : v.get? id = some m) : ∃ w, y.1.server = some w ∧ w.get? id = some m := by
  induction hrun with
  | nil => exact ⟨v, hv, hm⟩
  | snoc move hbefore hmove ih =>
    obtain ⟨w, hw, hkept⟩ := ih fun move hmem => hawaits move (List.mem_append_left _ hmem)
    exact Move.get?_of_awaits (hbefore.consistent hx) hmove (hawaits move (by simp)) hw hkept

end Waiting

/-- The next round makes a master of the one that the server has, with what is
due for the parameter. -/
structure TrainsFrom (id : String) (m : Tensor) (z z' : Store LocalServer × Host) : Prop where
  next : ∃ u u' grad t o, z.1.server = some u ∧ z'.1.server = some u' ∧
    LocalServer.due (u.pending.lookup id) (gradientContents z id) = .ok grad ∧
    (Optimizer.advance id m grad).runFrom u.optimizer = (.ok t, o) ∧ u'.get? id = some t

theorem trainsFrom {z z' : Store LocalServer × Host} {u : LocalServer} {id : String} {m : Tensor}
    (hz : Consistent z) (hu : z.1.server = some u) (hm : u.get? id = some m)
    (hid : id ∈ z.1.trainable) (hround : updateAll.runFrom z = (.ok (), z')) :
    TrainsFrom id m z z' := by
  obtain ⟨-, u₁, w, hz', hpushed, hpulled⟩ := updateAll_local hz.names hu hround
  obtain ⟨m', t, o, hm', hrun, -, hw, -⟩ := hpulled.own id hid
  obtain rfl : m = m' := by
    rw [LocalServer.get?, hpushed.masters] at hm'
    exact Option.some.inj (hm.symm.trans hm')
  rw [hpushed.optimizer] at hrun
  exact ⟨u, w, _, t, o, hu, by rw [hz'], hpushed.own id hid, hrun, hw⟩

/-! ## A weight that is loaded too late -/

/-- A store over two devices whose one entry was dropped after the first touch. -/
def trialDropped : Store LocalServer × Host :=
  Move.after (Move.after (Move.after trialStart
    (.setServer (some (.new default)) [.cpu, .gpu]))
    (.getValue trialParameter .cpu))
    (.reset (some "weight"))

/-- The canonical array is overwritten with ones. -/
def trialLoad : Move LocalServer :=
  .elsewhere id { trialDropped.2 with
    pool := ((Pool.set ⟨0⟩ (Tensor.ones .float32 [2])).runFrom trialDropped.2.pool).2 }

theorem run_trialLoad :
    ∃ moves, Run trialStart moves (Move.after trialDropped trialLoad) := by
  have hplaced : Run (trialStart : Store LocalServer × Host) _ _ :=
    .snoc (.getValue trialParameter .cpu)
      (.snoc (.setServer (some (.new default)) [.cpu, .gpu]) .nil trivial) (by
        intro a ha
        rw [← Option.some.inj ha]
        decide)
  have hdropped : Run trialStart _ trialDropped := .snoc (.reset (some "weight")) hplaced trivial
  exact ⟨_, .snoc trialLoad hdropped (Pool.along_set _ _ _)⟩

/-- The first touch after the load. -/
def trialTouched : Except Fault ArrayId × Store LocalServer × Host :=
  (getValue trialParameter .gpu).runFrom (Move.after trialDropped trialLoad)

theorem trialTouched_eq : trialTouched = (.ok ⟨0⟩, trialTouched.2) :=
  eq_ok_of_toOption (by decide +kernel)

/-! ## First touches and masters -/

/-- What a first touch of a parameter leaves that succeeded, from a store with
the server `v`: arrays with the contents of the canonical array, and the master
that the server had before, if it had one. -/
structure PlacedOver (x y : Store LocalServer × Host) (id : String) (a : ArrayId)
    (v w : LocalServer) (e : Entry) (m : Tensor) : Prop where
  entry : y.1.find? id = some e
  materialized : e.materialized = true
  server : y.1.server = some w
  /-- Every replica holds what the canonical array held. -/
  contents : ∀ c ∈ e.replicas, y.2.pool.items? c = x.2.pool.items? a
  /-- The server keeps the master that it had, and takes the contents if it had none. -/
  master : w.get? id = some m ∧ (v.get? id).or (x.2.pool.contents? a) = some m
  others : ∀ name, name ≠ id → w.get? name = v.get? name
  /-- Server and replicas agree if there was no master or the canonical array held it. -/
  agree : (∀ c ∈ e.replicas, y.2.pool.contents? c = some m) ↔
    ∀ old, v.get? id = some old → x.2.pool.contents? a = some old
  /-- The next round trains from the master, and not from what the replicas hold. -/
  round : ∀ {later z z'}, Run y later z → (∀ move ∈ later, move.Awaits id) →
    e.trainable = true → updateAll.runFrom z = (.ok (), z') → TrainsFrom id m z z'

/-- However a state with a local server was reached, a first touch that
succeeds copies the canonical array and leaves the master of a known parameter
alone, from which the next round trains. -/
theorem placed_over_master {start x y : Store LocalServer × Host}
    {moves : List (Move LocalServer)} (hstart : Begins start) (hrun : Run start moves x)
    {v : LocalServer} (hv : x.1.server = some v) {p : Parameter} {device : Device} {a b : ArrayId}
    (ha : p.array = some a) (hhas : x.2.pool.Has a) (hnone : x.1.find? p.id = none)
    (hcall : (getValue p device).runFrom x = (.ok b, y)) :
    ∃ w e m, PlacedOver x y p.id a v w e m := by
  obtain ⟨hbegin, -⟩ := hstart.consistent
  have hx := hrun.consistent hbegin
  have harray : ∀ c ∈ p.array, x.2.pool.Has c := by
    rw [ha]
    rintro c ⟨⟩
    exact hhas
  have hasked := hx.asked harray device
  have hy := hasked.consistent hx
  rw [hcall] at hasked hy
  -- A call that succeeds left a materialized entry, so that it did not end in `failed`.
  have hentry : ∃ e, y.1.find? p.id = some e ∧ e.materialized = true := by
    cases hasked with
    | found _ hfind hm _ => exact ⟨_, hfind, hm⟩
    | placed _ _ _ _ _ _ _ _ =>
      exact ⟨_, (find?_settled _ _ _ _ _ _).trans (if_pos rfl), rfl⟩
  obtain ⟨e, hfind, hmaterialized⟩ := hentry
  have htouched := getValue_local hx hv harray device
  rw [hcall] at htouched
  rcases htouched with hsame | ⟨-, htouched⟩
  · dsimp only at hsame
    rw [hsame, hnone] at hfind
    cases hfind
  cases htouched with
  | failed _ _ =>
    rw [find?_settled, if_pos rfl] at hfind
    rw [← Option.some.inj hfind] at hmaterialized
    cases hmaterialized
  | @placed slot a' arrays w k hslot ha' hplacement hext hlearns hknown =>
    obtain rfl : a = a' := Option.some.inj (ha.symm.trans ha')
    obtain ⟨m, hm⟩ := Option.isSome_iff_exists.mp hknown
    have hmaster : (v.get? p.id).or (x.2.pool.contents? a) = some m :=
      hlearns.master.symm.trans hm
    have hitems : ∀ c ∈ arrays, k.pool.items? c = x.2.pool.items? a :=
      fun c hc => hplacement.items? hext hx.sound hhas hc
    have hcontents : ∀ c ∈ arrays, k.pool.contents? c = x.2.pool.contents? a :=
      fun c hc => hplacement.contents? hext hx.sound hhas hc
    have hcanonical : a ∈ arrays := List.mem_iff_getElem?.mpr
      ⟨slot, (hplacement.canonical slot).mpr ⟨rfl, Or.inl (by rw [hv]; rfl)⟩⟩
    have hentry := find?_settled x.1 p arrays true (some w) p.id
    rw [if_pos rfl] at hentry
    refine ⟨w, _, m, hentry, rfl, rfl, hitems, ⟨hm, hmaster⟩, hlearns.others, ?_, ?_⟩
    · constructor
      · intro hall old hold
        have hnow := hall a hcanonical
        rw [hcontents a hcanonical] at hnow
        rw [hold] at hmaster
        rw [hnow]
        exact hmaster.symm
      · intro hold c hc
        rw [hcontents c hc]
        rcases hvm : v.get? p.id with _ | old
        · rw [hvm] at hmaster
          exact hmaster
        · rw [hvm] at hmaster
          rw [hold old hvm]
          exact hmaster
    · intro later z z' hlater hawaits htrainable hround
      have hz := hlater.consistent hy
      obtain ⟨hkept, -⟩ := hlater.find?_of_spares hy (fun move hmem => (hawaits move hmem).spares)
        hentry
      obtain ⟨u, hu, hmu⟩ := hlater.get?_of_awaits hy hawaits rfl hm
      exact trainsFrom hz hu hmu ((mem_trainable hz.names).mpr ⟨_, hkept, htrainable⟩) hround

theorem placed_over_master_trial :
    ∃ (x y : Store LocalServer × Host) (v w : LocalServer) (e : Entry) (m : Tensor),
      v.get? "weight" = some (Tensor.zeros .float32 [2]) ∧
      x.2.pool.contents? ⟨0⟩ = some (Tensor.ones .float32 [2]) ∧
      PlacedOver x y "weight" ⟨0⟩ v w e m := by
  obtain ⟨moves, hrun⟩ := run_trialLoad
  obtain ⟨v, hv⟩ : ∃ v, (Move.after trialDropped trialLoad).1.server = some v :=
    Option.isSome_iff_exists.mp (by decide +kernel)
  have hmaster : ((Move.after trialDropped trialLoad).1.server.bind fun w =>
      w.get? "weight") = some (Tensor.zeros .float32 [2]) := by
    decide +kernel
  rw [hv] at hmaster
  obtain ⟨w, e, m, hplaced⟩ := placed_over_master begins_trialStart hrun hv
    (p := trialParameter) (a := ⟨0⟩) rfl (by decide +kernel)
    (by decide +kernel) trialTouched_eq
  exact ⟨_, _, v, w, e, m, hmaster, by decide +kernel, hplaced⟩

/-- The server does not see the ones: it has the zeros of the first placement. -/
theorem first_touch_disagrees :
    ¬ ∀ (start x y : Store LocalServer × Host) (moves : List (Move LocalServer)) (p : Parameter)
      (device : Device) (b c : ArrayId) (e : Entry) (w : LocalServer),
      Begins start → Run start moves x → x.1.find? p.id = none →
      (getValue p device).runFrom x = (.ok b, y) → y.1.find? p.id = some e →
      y.1.server = some w → c ∈ e.replicas →
      ∃ m t, w.get? p.id = some m ∧ y.2.pool.contents? c = some t ∧ t = m.cast t.dtype := by
  intro hagree
  obtain ⟨moves, hrun⟩ := run_trialLoad
  obtain ⟨w, hw⟩ : ∃ w, trialTouched.2.1.server = some w :=
    Option.isSome_iff_exists.mp (by decide +kernel)
  obtain ⟨m, t, hm, ht, hsame⟩ := hagree trialStart (Move.after trialDropped trialLoad)
    trialTouched.2 moves trialParameter .gpu ⟨0⟩ ⟨0⟩ ⟨true, [⟨3⟩, ⟨0⟩], true, false⟩ w
    begins_trialStart hrun (by decide +kernel) trialTouched_eq (by decide +kernel) hw (by simp)
  have hmaster : (trialTouched.2.1.server.bind fun w => w.get? "weight") =
      some (Tensor.zeros .float32 [2]) := by
    decide +kernel
  have hcontents : trialTouched.2.2.pool.contents? ⟨0⟩ = some (Tensor.ones .float32 [2]) := by
    decide +kernel
  rw [hw] at hmaster
  rw [← Option.some.inj (ht.symm.trans hcontents).symm,
    Option.some.inj (hm.symm.trans hmaster)] at hsame
  exact absurd hsame (by decide +kernel)

end Store

end DataParallel

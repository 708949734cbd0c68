import DataParallel.Proofs.Server.Local
import DataParallel.Proofs.Store.Runs

/-!
# First touches over a local server

A local server only reads when a parameter is registered.  A first touch over
it therefore adds the copies to the pool and changes nothing that was there,
and the server learns the contents of the canonical array if the parameter is
new to it.  It learns nothing from a first touch that fails.
-/

namespace DataParallel

open Step

namespace Store

/-! ## Registering -/

section Register

variable {s : Store LocalServer} {h : Host} {v : LocalServer} (id : String) (a : ArrayId)
  (rest : List ArrayId) (hv : s.server = some v)

include hv

theorem runFrom_onServer_init :
    ∃ r w k, (onServer (ParameterServer.init id (a :: rest))).runFrom (s, h) =
        (r, { s with server := some w }, k) ∧ k.pool = h.pool ∧
      LocalServer.Learns id (h.pool.contents? a) v w ∧ (r = .ok () ↔ (w.get? id).isSome) := by
  obtain ⟨r, w, k, hrun, hpool, hlearns, hr⟩ := LocalServer.runFrom_init id a rest v h
  have hinit : (ParameterServer.init id (a :: rest) : Step (LocalServer × Host) Unit).runFrom
      (v, h) = (r, w, k) := hrun
  refine ⟨r, w, k, ?_, hpool, hlearns, hr⟩
  rw [runFrom_onServer hv, hinit]

/-- Registering a known parameter succeeds and teaches the server nothing. -/
theorem register_known (hknown : (v.get? id).isSome) (todo : List ArrayId) :
    ∃ w k, (register id (a :: rest) todo).runFrom (s, h) =
        (.ok (), s.filled id todo (some w), k) ∧ k.pool = h.pool ∧
      LocalServer.Learns id none v w := by
  induction todo generalizing s h v with
  | nil =>
    refine ⟨v, h, ?_, rfl, .refl id v⟩
    rw [← hv, filled_nil]
    rfl
  | cons b todo ih =>
    obtain ⟨r, w, k, hcall, hpool, hlearns, hr⟩ :=
      runFrom_onServer_init (h := h) id a rest hv
    obtain ⟨m, hm⟩ := Option.isSome_iff_exists.mp hknown
    have hw : (w.get? id).isSome := by
      rw [hlearns.get? hm]
      rfl
    rw [hr.mpr hw] at hcall
    obtain ⟨u, l, hrun, hpool', hlearns'⟩ := ih (s := s.filled id [b] (some w)) (h := k) rfl hw
    refine ⟨u, l, ?_, hpool'.trans hpool, (hlearns.known hknown).trans hlearns'⟩
    rw [register, runFrom_bind_of_ok hcall, runFrom_bind_of_ok (runFrom_addReplica id b _), hrun,
      filled_filled]
    rfl

/-- Registering fails at the first call or not at all. -/
theorem register_local :
    (∃ fault w k, (register id (a :: rest) (a :: rest)).runFrom (s, h) =
        (.error fault, s.filled id [] (some w), k) ∧ k.pool = h.pool ∧
      LocalServer.Learns id none v w) ∨
    ∃ w k, (register id (a :: rest) (a :: rest)).runFrom (s, h) =
        (.ok (), s.filled id (a :: rest) (some w), k) ∧ k.pool = h.pool ∧
      LocalServer.Learns id (h.pool.contents? a) v w ∧ (w.get? id).isSome := by
  obtain ⟨r, w, k, hcall, hpool, hlearns, hr⟩ :=
    runFrom_onServer_init (h := h) id a rest hv
  rcases r with fault | ⟨⟩
  · left
    refine ⟨fault, w, k, ?_, hpool, ?_⟩
    · rw [register, runFrom_bind_of_error hcall]
      exact congrArg (fun t => (Except.error fault, t, k))
        (filled_nil { s with server := some w } id).symm
    · have hnone : w.get? id = none := by
        rw [← Option.not_isSome_iff_eq_none, ← hr]
        intro hok
        cases hok
      have hmaster := hlearns.master
      rw [hnone, eq_comm, Option.or_eq_none_iff] at hmaster
      rw [hmaster.2] at hlearns
      exact hlearns
  · right
    have hw : (w.get? id).isSome := hr.mp rfl
    obtain ⟨u, l, hrun, hpool', hlearns'⟩ :=
      register_known (s := s.filled id [a] (some w)) (h := k) id a rest rfl hw rest
    obtain ⟨m, hm⟩ := Option.isSome_iff_exists.mp hw
    refine ⟨u, l, ?_, hpool'.trans hpool, hlearns.trans hlearns', ?_⟩
    · rw [register, runFrom_bind_of_ok hcall, runFrom_bind_of_ok (runFrom_addReplica id a _),
        hrun, filled_filled]
      rfl
    · rw [hlearns'.get? hm]
      rfl

end Register

/-! ## Touching -/

section Placement

variable {σ : Type} {s : Store σ} {p q : Pool} {device : Device} {slot : Nat} {a c : ArrayId}
  {arrays : List ArrayId} (h : Placement s p q device slot a arrays) (hpq : p.Extends q)
  (hp : p.Sound) (ha : p.Has a) (hc : c ∈ arrays)

include h hpq hp ha hc

/-- All arrays of a placement hold what the canonical array holds. -/
theorem Placement.items? : q.items? c = p.items? a := by
  by_cases hca : c = a
  · rw [hca, hpq.items? hp ha]
  · obtain ⟨i, hi⟩ := List.mem_iff_getElem?.mp hc
    obtain ⟨d, t, -, ht, hcopy⟩ := h.copy hi hca
    rw [hcopy.contents, ht]

theorem Placement.contents? : q.contents? c = p.contents? a :=
  congrArg (·.bind Contents.tensor?) (h.items? hpq hp ha hc)

end Placement

/-- The states that a first touch over a local server leads to. -/
inductive Touched (p : Parameter) (device : Device) (s : Store LocalServer) (h : Host)
    (v : LocalServer) : Store LocalServer × Host → Prop where
  /-- Nothing was registered. -/
  | failed {w : LocalServer} {k : Host} : h.pool.Extends k.pool →
    LocalServer.Learns p.id none v w → Touched p device s h v (s.settled p [] false (some w), k)
  /-- The parameter is placed and known to the server. -/
  | placed {slot : Nat} {a : ArrayId} {arrays : List ArrayId} {w : LocalServer} {k : Host} :
    s.registry.slotOf device = .ok slot → p.array = some a →
    Placement s h.pool k.pool device slot a arrays → h.pool.Extends k.pool →
    LocalServer.Learns p.id (h.pool.contents? a) v w → (w.get? p.id).isSome →
    Touched p device s h v (s.settled p arrays true (some w), k)

section Touch

variable {s : Store LocalServer} {h : Host} {v : LocalServer} {p : Parameter} {device : Device}
  {slot : Nat}

theorem touched_of_error {fault : Fault} {t : Store LocalServer} {w : LocalServer} {k : Host}
    (hslot : s.registry.slotOf device = .ok slot) (hnone : s.find? p.id = none)
    (hext : h.pool.Extends k.pool) (hlearns : LocalServer.Learns p.id none v w)
    (hrun : (materialize p device slot).runFrom (s.opened p, h) = (.error fault, t, k))
    (ht : t = (s.opened p).filled p.id [] (some w)) :
    Touched p device s h v ((getValue p device).runFrom (s, h)).2 := by
  rw [runFrom_getValue_new hslot hnone, hrun, ht]
  dsimp only
  rw [failed_filled_opened hnone]
  exact .failed hext hlearns

theorem getValue_touched (hv : s.server = some v) (hslot : s.registry.slotOf device = .ok slot)
    (hnone : s.find? p.id = none) (hp : h.pool.Sound) (harray : ∀ a ∈ p.array, h.pool.Has a) :
    Touched p device s h v ((getValue p device).runFrom (s, h)).2 := by
  have hsame : s.opened p = (s.opened p).filled p.id [] (some v) := by
    rw [← hv]
    exact (filled_nil (s.opened p) p.id).symm
  rcases ha : p.array with _ | a
  · exact touched_of_error hslot hnone (.refl _) (.refl _ v) (materialize_unset ha) hsame
  have hhas : h.pool.Has a := harray a ha
  have hserver : (s.opened p).server.isSome := by
    rw [show (s.opened p).server = some v from hv]
    rfl
  have hdevice := Registry.slotOf_eq_ok.mp hslot
  have hlt : slot < s.registry.devices.length := (List.getElem?_eq_some_iff.mp hdevice).1
  obtain ⟨q, hext, hstate, hspread⟩ :=
    runFrom_spread (s := s.opened p) (h := h) a slot 0 s.registry.devices
  rcases hrun : (spread a slot 0 s.registry.devices).runFrom (s.opened p, h) with ⟨fault | all, x⟩
  · rw [hrun] at hstate
    obtain rfl : x = (s.opened p, { h with pool := q }) := hstate
    exact touched_of_error hslot hnone (k := { h with pool := q }) hext (.refl _ v)
      (materialize_of_spread_error ha hserver hrun) hsame
  · rw [hrun] at hstate hspread
    obtain rfl : x = (s.opened p, { h with pool := q }) := hstate
    have hplacement : Placement s h.pool q device slot a all :=
      (hspread all hp rfl).placement (s := s) hhas hlt (by rw [hv]; rfl)
    obtain ⟨c, rest, rfl⟩ : ∃ c rest, all = c :: rest := by
      rcases all with _ | ⟨c, rest⟩
      · have hlen := hplacement.length
        rw [← hlen] at hlt
        exact absurd hlt (Nat.not_lt_zero _)
      · exact ⟨c, rest, rfl⟩
    have hfirst : q.contents? c = h.pool.contents? a :=
      hplacement.contents? hext hp hhas (List.mem_cons_self ..)
    rcases register_local (s := s.opened p) (h := { h with pool := q }) p.id c rest hv with
      ⟨fault, w, k, hreg, hpool, hlearns⟩ | ⟨w, k, hreg, hpool, hlearns, hw⟩
    · refine touched_of_error hslot hnone ?_ hlearns
        (materialize_of_register_error ha hserver hrun hreg) rfl
      rw [hpool]
      exact hext
    · have hb : ∃ b, (c :: rest)[slot]? = some b := by
        refine ⟨_, List.getElem?_eq_getElem ?_⟩
        rw [hplacement.length]
        exact hlt
      obtain ⟨b, hb⟩ := hb
      obtain ⟨l, hdone, hpool'⟩ :=
        getValue_of_register hslot (by rw [hv]; rfl) hnone ha hrun hreg hb
      have hl : l.pool = q := hpool'.trans hpool
      rw [hdone]
      rw [hfirst] at hlearns
      refine .placed hslot ha ?_ ?_ hlearns hw
      · rw [hl]
        exact hplacement
      · rw [hl]
        exact hext

/-- Asking for a parameter over a local server changes nothing unless it is a
first touch. -/
theorem getValue_local {x : Store LocalServer × Host} (hx : Consistent x)
    (hv : x.1.server = some v) (harray : ∀ a ∈ p.array, x.2.pool.Has a) (device : Device) :
    ((getValue p device).runFrom x).2 = x ∨
      (x.1.find? p.id = none ∧
        Touched p device x.1 x.2 v ((getValue p device).runFrom x).2) := by
  obtain ⟨s, h⟩ := x
  by_cases hdevice : device ∈ s.registry.devices
  · obtain ⟨slot, hslot, hlt⟩ := Registry.exists_slotOf hdevice
    rcases hfind : s.find? p.id with _ | e
    · exact Or.inr ⟨rfl, getValue_touched hv hslot hfind hx.sound harray⟩
    · exact Or.inl ((hx.asked harray device).unchanged hfind)
  · left
    rw [getValue_of_not_mem hdevice]

end Touch

end Store

end DataParallel

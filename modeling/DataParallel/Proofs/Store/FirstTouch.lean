import DataParallel.Proofs.Store.Placement

/-!
# The first touch of a parameter

`Store.getValue` has four outcomes.  A device that is not registered, an entry
that failed and an entry that is materialized leave store and host as they
were.  Only a parameter that has no entry is placed, and whether this succeeds
or not, it makes the one entry and lets the pool evolve.
-/

namespace DataParallel

open Step

namespace Store

variable {σ : Type} {s : Store σ} {h : Host}

/-! ## Calls of the server -/

theorem runFrom_onServer {v : σ} (hv : s.server = some v) (step : Step (σ × Host) Unit) :
    (onServer step).runFrom (s, h) =
      ((step.runFrom (v, h)).1, { s with server := some (step.runFrom (v, h)).2.1 },
        (step.runFrom (v, h)).2.2) := by
  simp only [onServer, runFrom_make, hv]

/-- A call of the server changes the server and lets the pool evolve. -/
theorem onServer_evolves {step : Step (σ × Host) Unit} (hstep : Along (Beside Host.Evolves) step)
    (s : Store σ) (h : Host) :
    ∃ server k, ((onServer step).runFrom (s, h)).2 = ({ s with server := server }, k) ∧
      server.isSome = s.server.isSome ∧ h.Evolves k := by
  rcases hv : s.server with _ | v
  · have hsame : ({ s with server := none } : Store σ) = s := by rw [← hv]
    refine ⟨none, h, ?_, rfl, Pool.Evolves.refl h.pool⟩
    simp only [onServer, runFrom_make, hv, hsame]
  · exact ⟨some (step.runFrom (v, h)).2.1, (step.runFrom (v, h)).2.2,
      by rw [runFrom_onServer hv], rfl, hstep (v, h)⟩

theorem runFrom_value {p : Parameter} {a : ArrayId} (ha : p.array = some a) :
    (Step.ofExcept p.value : Step (Store σ × Host) ArrayId).runFrom (s, h) =
      (.ok a, s, h) := by
  rw [Parameter.value, ha]
  rfl

variable [ParameterServer σ]

/-! ## The four outcomes -/

/-- A device that is not registered changes nothing. -/
theorem getValue_of_not_mem {p : Parameter} {device : Device}
    (hdevice : device ∉ s.registry.devices) :
    (getValue p device).runFrom (s, h) = (.error (.unknownDevice device), s, h) := by
  have hslot : (slotOf device).runFrom (s, h) = (.error (.unknownDevice device), s, h) := by
    rw [runFrom_slotOf, Registry.slotOf_of_not_mem hdevice]
  rw [getValue, runFrom_bind_of_error hslot]

/-- What comes of an entry that is neither placed nor failed. -/
theorem runFrom_take_awaiting {p : Parameter} {device : Device} {slot : Nat} {e : Entry}
    (hfind : s.find? p.id = some e) (hfailed : e.failed = false) (hm : e.materialized = false) :
    (take p device slot).runFrom (s, h) =
      match (materialize p device slot).runFrom (s, h) with
      | (.ok (), t, k) =>
        let t := t.updateEntry p.id fun e => { e with materialized := true }
        ((t.replicas p.id)[slot]?.elim (.error .outOfRange) .ok, t, k)
      | (.error fault, t, k) =>
        (.error fault, t.updateEntry p.id fun e => { e with failed := true }, k) := by
  rw [take, runFrom_bind_of_ok (runFrom_get _)]
  simp only [hfind, Option.getD_some, hfailed, hm, Bool.false_eq_true, ↓reduceIte, Bool.not_false]
  rcases hrun : (materialize p device slot).runFrom (s, h) with ⟨fault | ⟨⟩, t, k⟩
  · have hattempt : (attempt (materialize p device slot)).runFrom (s, h) =
        (.ok (.error fault), t, k) := by
      rw [runFrom_attempt, hrun]
    rw [runFrom_bind_of_ok hattempt]
    rfl
  · have hattempt : (attempt (materialize p device slot)).runFrom (s, h) =
        (.ok (.ok ()), t, k) := by
      rw [runFrom_attempt, hrun]
    rw [runFrom_bind_of_ok hattempt]
    dsimp only
    rw [runFrom_bind_of_ok (runFrom_modify _ _), runFrom_bind_of_ok (runFrom_get _)]
    dsimp only
    rcases ((t.updateEntry p.id fun e => { e with materialized := true }).replicas
      p.id)[slot]? with _ | b
    · rfl
    · rfl

section Registered

variable {p : Parameter} {device : Device} {slot : Nat}
  (hslot : s.registry.slotOf device = .ok slot)

include hslot

theorem getValue_known {e : Entry} (hfind : s.find? p.id = some e) :
    (getValue p device).runFrom (s, h) = (take p device slot).runFrom (s, h) := by
  have hrun : (slotOf device).runFrom (s, h) = (.ok slot, s, h) := by
    rw [runFrom_slotOf, hslot]
  have hentry : (ensureEntry p).runFrom (s, h) = (.ok (), s, h) := by
    rw [ensureEntry, runFrom_bind_of_ok (runFrom_get _)]
    simp [contains, hfind]
  rw [getValue, runFrom_bind_of_ok hrun, runFrom_bind_of_ok hentry]

/-- A failed entry is refused. -/
theorem getValue_of_failed {e : Entry} (hfind : s.find? p.id = some e)
    (hfailed : e.failed = true) :
    (getValue p device).runFrom (s, h) = (.error (.partlyPlaced p.id), s, h) := by
  rw [getValue_known hslot hfind, take, runFrom_bind_of_ok (runFrom_get _)]
  simp [hfind, hfailed]

/-- A materialized entry gives the array of the slot. -/
theorem getValue_of_materialized {e : Entry} {b : ArrayId} (hfind : s.find? p.id = some e)
    (hfailed : e.failed = false) (hmaterialized : e.materialized = true)
    (hb : e.replicas[slot]? = some b) :
    (getValue p device).runFrom (s, h) = (.ok b, s, h) := by
  have hreplicas : (s.replicas p.id)[slot]? = some b := by
    rw [replicas, hfind]
    exact hb
  rw [getValue_known hslot hfind, take, runFrom_bind_of_ok (runFrom_get _)]
  simp [hfind, hfailed, hmaterialized, runFrom_bind, hreplicas]

/-- What placing a parameter without an entry comes to. -/
theorem runFrom_getValue_new (hnone : s.find? p.id = none) :
    (getValue p device).runFrom (s, h) =
      match (materialize p device slot).runFrom (s.opened p, h) with
      | (.ok (), t, k) =>
        let t := t.updateEntry p.id fun e => { e with materialized := true }
        ((t.replicas p.id)[slot]?.elim (.error .outOfRange) .ok, t, k)
      | (.error fault, t, k) =>
        (.error fault, t.updateEntry p.id fun e => { e with failed := true }, k) := by
  have hrun : (slotOf device).runFrom (s, h) = (.ok slot, s, h) := by
    rw [runFrom_slotOf, hslot]
  have hfind : (s.opened p).find? p.id = some ⟨p.requiresGradient.truthy, [], false, false⟩ := by
    rw [find?, opened, Keyed.lookup_put, if_pos rfl]
  rw [getValue, runFrom_bind_of_ok hrun, runFrom_bind_of_ok (runFrom_ensureEntry_new hnone),
    runFrom_take_awaiting hfind rfl rfl]

end Registered

/-! ## The parts of a placement -/

section Materialize

variable {p : Parameter} {device : Device} {slot : Nat} {a : ArrayId}

theorem materialize_unset (ha : p.array = none) :
    (materialize p device slot).runFrom (s, h) = (.error (.uninitialized p.name), s, h) := by
  rw [materialize, Parameter.value, ha]
  rfl

theorem materialize_alone (ha : p.array = some a) (hserver : s.server = none) :
    (materialize p device slot).runFrom (s, h) =
      (placeAlone p a device).runFrom (s, h) := by
  rw [materialize, runFrom_bind_of_ok (runFrom_value ha), runFrom_bind_of_ok (runFrom_get _)]
  simp only [hserver, Option.isNone_none, ↓reduceIte]

variable (ha : p.array = some a) (hserver : s.server.isSome)

include ha hserver

theorem materialize_of_spread_error {fault : Fault} {x : Store σ × Host}
    (hspread : (spread a slot 0 s.registry.devices).runFrom (s, h) = (.error fault, x)) :
    (materialize p device slot).runFrom (s, h) = (.error fault, x) := by
  obtain ⟨v, hv⟩ := Option.isSome_iff_exists.mp hserver
  rw [materialize, runFrom_bind_of_ok (runFrom_value ha), runFrom_bind_of_ok (runFrom_get _)]
  simp only [hv, Option.isNone_some, Bool.false_eq_true, ↓reduceIte]
  rw [runFrom_bind_of_ok (runFrom_get _), runFrom_bind_of_error hspread]

variable {all : List ArrayId} {k : Host}
  (hspread : (spread a slot 0 s.registry.devices).runFrom (s, h) = (.ok all, s, k))

include hspread

theorem materialize_of_register_error {fault : Fault} {x : Store σ × Host}
    (hregister : (register p.id all all).runFrom (s, k) = (.error fault, x)) :
    (materialize p device slot).runFrom (s, h) = (.error fault, x) := by
  obtain ⟨v, hv⟩ := Option.isSome_iff_exists.mp hserver
  rw [materialize, runFrom_bind_of_ok (runFrom_value ha), runFrom_bind_of_ok (runFrom_get _)]
  simp only [hv, Option.isNone_some, Bool.false_eq_true, ↓reduceIte]
  rw [runFrom_bind_of_ok (runFrom_get _), runFrom_bind_of_ok hspread,
    runFrom_bind_of_error hregister]

theorem materialize_of_register {t : Store σ} {l : Host}
    (hregister : (register p.id all all).runFrom (s, k) = (.ok (), t, l)) :
    ∃ l', (materialize p device slot).runFrom (s, h) = (.ok (), t, l') ∧ l'.pool = l.pool := by
  obtain ⟨v, hv⟩ := Option.isSome_iff_exists.mp hserver
  obtain ⟨l', hnote, hpool⟩ := runFrom_note (s := t) (h := l) .debug
    ("Placed " ++ p.name.display ++ "[" ++ p.id ++ "] on " ++ Number.intText all.length ++
      " devices, canonical at slot " ++ Number.intText slot)
  refine ⟨l', ?_, hpool⟩
  rw [materialize, runFrom_bind_of_ok (runFrom_value ha), runFrom_bind_of_ok (runFrom_get _)]
  simp only [hv, Option.isNone_some, Bool.false_eq_true, ↓reduceIte]
  rw [runFrom_bind_of_ok (runFrom_get _), runFrom_bind_of_ok hspread,
    runFrom_bind_of_ok hregister, hnote]

end Materialize

/-! ## First touches in a store with a server -/

section Distributed

variable {p : Parameter} {device : Device} {slot : Nat} {a : ArrayId}
  (hslot : s.registry.slotOf device = .ok slot) (hserver : s.server.isSome)

include hslot hserver

variable (hnone : s.find? p.id = none) (ha : p.array = some a) {all : List ArrayId} {k : Host}
  (hspread : (spread a slot 0 s.registry.devices).runFrom (s.opened p, h) =
    (.ok all, s.opened p, k))

include hnone ha hspread

theorem getValue_of_register {server : Option σ} {b : ArrayId} {l : Host}
    (hregister : (register p.id all all).runFrom (s.opened p, k) =
      (.ok (), (s.opened p).filled p.id all server, l)) (hb : all[slot]? = some b) :
    ∃ l', (getValue p device).runFrom (s, h) = (.ok b, s.settled p all true server, l') ∧
      l'.pool = l.pool := by
  obtain ⟨l', hdone, hpool⟩ : ∃ l', (materialize p device slot).runFrom (s.opened p, h) =
      (.ok (), (s.opened p).filled p.id all server, l') ∧ l'.pool = l.pool :=
    materialize_of_register (s := s.opened p) ha hserver hspread hregister
  have hreplicas : (s.settled p all true server).replicas p.id = all := by
    rw [replicas, find?_settled, if_pos rfl]
    rfl
  refine ⟨l', ?_, hpool⟩
  rw [runFrom_getValue_new hslot hnone, hdone]
  dsimp only
  rw [materialized_filled_opened hnone, hreplicas, hb]
  rfl

/-- The server after a first touch is the server after registering. -/
theorem server_getValue_of_register :
    ((getValue p device).runFrom (s, h)).2.1.server =
      ((register p.id all all).runFrom (s.opened p, k)).2.1.server := by
  rw [runFrom_getValue_new hslot hnone]
  rcases hreg : (register p.id all all).runFrom (s.opened p, k) with ⟨fault | ⟨⟩, t, l⟩
  · have hfailed : (materialize p device slot).runFrom (s.opened p, h) =
        (.error fault, t, l) :=
      materialize_of_register_error (s := s.opened p) ha hserver hspread hreg
    rw [hfailed]
    rfl
  · obtain ⟨l', hdone, -⟩ : ∃ l', (materialize p device slot).runFrom (s.opened p, h) =
        (.ok (), t, l') ∧ l'.pool = l.pool :=
      materialize_of_register (s := s.opened p) ha hserver hspread hreg
    rw [hdone]
    rfl

end Distributed

variable [Contained σ]

/-- However registering ends, some of the arrays are in the entry, and all of
them if it succeeds. -/
theorem runFrom_register (id : String) (all todo : List ArrayId) :
    ∃ arrays server k,
      ((register id all todo).runFrom (s, h)).2 = (s.filled id arrays server, k) ∧
      server.isSome = s.server.isSome ∧ h.Evolves k ∧
      (((register id all todo).runFrom (s, h)).1 = .ok () → arrays = todo) := by
  induction todo generalizing s h with
  | nil =>
    exact ⟨[], s.server, h, by rw [filled_nil]; rfl, rfl, Pool.Evolves.refl _, fun _ => rfl⟩
  | cons a rest ih =>
    obtain ⟨server, k, hcall, hserver, hevolves⟩ :=
      onServer_evolves (Contained.init (σ := σ) id all) s h
    rcases hrun : (onServer (ParameterServer.init id all)).runFrom (s, h) with ⟨fault | ⟨⟩, x⟩
    · refine ⟨[], server, k, ?_, hserver, hevolves, fun hok => ?_⟩
      · rw [register, runFrom_bind_of_error hrun]
        rw [hrun] at hcall
        exact hcall.trans (congrArg (·, k) (filled_nil { s with server := server } id).symm)
      · rw [register, runFrom_bind_of_error hrun] at hok
        cases hok
    · rw [hrun] at hcall
      obtain rfl : x = ({ s with server := server }, k) := hcall
      have hstep : (register id all (a :: rest)).runFrom (s, h) =
          (register id all rest).runFrom (s.filled id [a] server, k) := by
        rw [register, runFrom_bind_of_ok hrun,
          runFrom_bind_of_ok (runFrom_addReplica id a server)]
      obtain ⟨arrays, server', k', hstate, hserver', hevolves', hok⟩ :=
        ih (s := s.filled id [a] server) (h := k)
      refine ⟨a :: arrays, server', k', ?_, hserver'.trans hserver,
        Pool.Evolves.trans hevolves hevolves', fun hdone => ?_⟩
      · rw [hstep, hstate, filled_filled]
        rfl
      · rw [hstep] at hdone
        rw [hok hdone]

/-- A placement that succeeds leaves the arrays in the entry, some of them
before the server was called. -/
theorem runFrom_materialize {p : Parameter} {device : Device} {slot : Nat}
    (hp : h.pool.Sound) (harray : ∀ a ∈ p.array, h.pool.Has a)
    (hslot : s.registry.slotOf device = .ok slot)
    (hsingle : s.server = none → s.registry.devices.length = 1) :
    ∃ arrays server k,
      ((materialize p device slot).runFrom (s, h)).2 = (s.filled p.id arrays server, k) ∧
      server.isSome = s.server.isSome ∧ h.Evolves k ∧
      (((materialize p device slot).runFrom (s, h)).1 = .ok () →
        ∃ a q, p.array = some a ∧ Placement s h.pool q device slot a arrays ∧
          h.pool.Extends q ∧ q.Evolves k.pool) := by
  have hdevice := Registry.slotOf_eq_ok.mp hslot
  rcases ha : p.array with _ | a
  · rw [materialize_unset ha]
    exact ⟨[], s.server, h, by rw [filled_nil], rfl, Pool.Evolves.refl _,
      fun hok => by cases hok⟩
  have hhas : h.pool.Has a := harray a ha
  rcases hserver : s.server with _ | v
  · obtain ⟨arrays, k, hstate, hext, hok⟩ := runFrom_placeAlone (h := h) hserver p a device
    rw [materialize_alone ha hserver]
    refine ⟨arrays, none, k, hstate, rfl, hext.evolves, fun hdone => ?_⟩
    obtain ⟨b, rfl, hb⟩ := hok hdone hp
    obtain ⟨d, hd⟩ := List.length_eq_one_iff.mp (hsingle hserver)
    rw [hd] at hdevice
    obtain ⟨rfl, rfl⟩ : slot = 0 ∧ d = device := by
      rcases slot with _ | slot
      · exact ⟨rfl, Option.some.inj hdevice⟩
      · cases hdevice
    exact ⟨a, k.pool, rfl, Placement.alone hserver hd hhas hb, hext, Pool.Evolves.refl _⟩
  · have hsome : s.server.isSome := by rw [hserver]; rfl
    obtain ⟨q, hext, hstate, hspread⟩ :=
      runFrom_spread (s := s) (h := h) a slot 0 s.registry.devices
    rcases hrun : (spread a slot 0 s.registry.devices).runFrom (s, h) with ⟨fault | all, x⟩
    · rw [hrun] at hstate
      obtain rfl : x = (s, { h with pool := q }) := hstate
      rw [materialize_of_spread_error ha hsome hrun, ← hserver]
      exact ⟨[], s.server, { h with pool := q }, by rw [filled_nil], rfl, hext.evolves,
        fun hok => by cases hok⟩
    · rw [hrun] at hstate hspread
      obtain rfl : x = (s, { h with pool := q }) := hstate
      obtain ⟨arrays, server, k, hregister, hisSome, hevolves, hok⟩ :=
        runFrom_register (s := s) (h := { h with pool := q }) p.id all all
      rw [hserver] at hisSome
      rcases hreg : (register p.id all all).runFrom (s, { h with pool := q })
        with ⟨fault | ⟨⟩, y⟩
      · rw [hreg] at hregister
        rw [materialize_of_register_error ha hsome hrun hreg]
        exact ⟨arrays, server, k, hregister, hisSome, hext.evolves.trans hevolves,
          fun hdone => by cases hdone⟩
      · rw [hreg] at hregister hok
        obtain rfl : y = (s.filled p.id arrays server, k) := hregister
        obtain ⟨k', hdone, hpool⟩ := materialize_of_register ha hsome hrun hreg
        rw [hdone]
        have hq : q.Evolves k'.pool := by
          rw [hpool]
          exact hevolves
        refine ⟨arrays, server, k', rfl, hisSome, hext.evolves.trans hq, fun _ => ?_⟩
        rw [hok rfl]
        have hlt : slot < s.registry.devices.length :=
          (List.getElem?_eq_some_iff.mp hdevice).1
        exact ⟨a, q, rfl, (hspread all hp rfl).placement hhas hlt hsome, hext, hq⟩

/-- A parameter without an entry is placed.  Its entry is failed if anything
fails on the way, and otherwise gives the array of the slot. -/
theorem getValue_first {p : Parameter} {device : Device} {slot : Nat}
    (hslot : s.registry.slotOf device = .ok slot) (hnone : s.find? p.id = none) (hp : h.pool.Sound)
    (harray : ∀ a ∈ p.array, h.pool.Has a)
    (hsingle : s.server = none → s.registry.devices.length = 1) :
    ∃ arrays server k, server.isSome = s.server.isSome ∧ h.Evolves k ∧
      ((∃ fault, (getValue p device).runFrom (s, h) =
          (.error fault, s.settled p arrays false server, k)) ∨
        ∃ a b q, p.array = some a ∧ Placement s h.pool q device slot a arrays ∧
          h.pool.Extends q ∧ q.Evolves k.pool ∧ arrays[slot]? = some b ∧
          (getValue p device).runFrom (s, h) =
            (.ok b, s.settled p arrays true server, k)) := by
  have hnew := runFrom_getValue_new (h := h) hslot hnone
  obtain ⟨arrays, server, k, hstate, hisSome, hevolves, hok⟩ :=
    runFrom_materialize (s := s.opened p) (h := h) (p := p) hp harray hslot hsingle
  refine ⟨arrays, server, k, hisSome, hevolves, ?_⟩
  rcases hm : (materialize p device slot).runFrom (s.opened p, h) with ⟨fault | ⟨⟩, x⟩
  · rw [hm] at hstate hnew
    obtain rfl : x = ((s.opened p).filled p.id arrays server, k) := hstate
    left
    refine ⟨fault, ?_⟩
    rw [hnew]
    dsimp only
    rw [failed_filled_opened hnone]
  · rw [hm] at hstate hnew hok
    obtain rfl : x = ((s.opened p).filled p.id arrays server, k) := hstate
    right
    obtain ⟨a, q, ha, hplacement, hext, hq⟩ := hok rfl
    have hlt : slot < arrays.length := by
      rw [hplacement.length]
      exact (List.getElem?_eq_some_iff.mp (Registry.slotOf_eq_ok.mp hslot)).1
    have hget : arrays[slot]? = some arrays[slot] := List.getElem?_eq_getElem hlt
    refine ⟨a, arrays[slot], q, ha, ⟨hplacement.length, hplacement.nodup,
      hplacement.canonical, hplacement.copy⟩, hext, hq, hget, ?_⟩
    have hreplicas : (s.settled p arrays true server).replicas p.id = arrays := by
      rw [replicas, find?_settled, if_pos rfl]
      rfl
    rw [hnew]
    dsimp only
    rw [materialized_filled_opened hnone, hreplicas, hget]
    rfl

end Store

end DataParallel

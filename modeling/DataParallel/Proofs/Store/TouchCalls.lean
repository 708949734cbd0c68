import DataParallel.Proofs.Store.PlacedOnce

/-!
# The calls of a first touch

A first touch in a store with a server ends in one of three ways, and the calls
that the server gets tell them apart.  It gets no call if the arrays cannot be
made, one call for each device if the parameter is placed, and otherwise calls
up to the first one that fails.
-/

namespace DataParallel

open Step

namespace Store

variable {σ : Type}

/-- The calls and the result of a first touch on the device of a slot, and the
state that is left. -/
inductive TouchCalls (p : Parameter) (device : Device) (slot : Nat)
    (x : Store (Watched σ) × Host) (w : Watched σ) :
    List (Call × Except Fault Unit) → Except Fault ArrayId × Store (Watched σ) × Host → Prop where
  /-- The arrays could not be made. -/
  | unasked {fault : Fault} {k : Host} :
    TouchCalls p device slot x w [] (.error fault, x.1.settled p [] false (some w), k)
  /-- All arrays are registered. -/
  | placed {a : ArrayId} {all : List ArrayId} {q : Pool} {v : σ} {k : Host}
      {calls : List (Call × Except Fault Unit)} :
    p.array = some a → Placement x.1 x.2.pool q device slot a all → x.2.pool.Extends q →
    q.Evolves k.pool → calls = List.replicate all.length (registered p.id all) →
    TouchCalls p device slot x w calls
      (.ok a, x.1.settled p all true (some ⟨v, w.calls ++ calls⟩), k)
  /-- Registering broke off. -/
  | broken {a : ArrayId} {all : List ArrayId} {q : Pool} {v : σ} {k : Host} {n : Nat}
      {fault : Fault} {calls : List (Call × Except Fault Unit)} :
    p.array = some a → Placement x.1 x.2.pool q device slot a all → x.2.pool.Extends q →
    q.Evolves k.pool → n < all.length →
    calls = List.replicate n (registered p.id all) ++ [refused p.id all fault] →
    TouchCalls p device slot x w calls
      (.error fault, x.1.settled p (all.take n) false (some ⟨v, w.calls ++ calls⟩), k)

variable {x : Store (Watched σ) × Host} {p : Parameter} {device : Device} {slot : Nat}
  {w : Watched σ}

/-- The calls are those that the server has got since. -/
theorem TouchCalls.eq_of_server {made calls : List (Call × Except Fault Unit)}
    {r : Except Fault ArrayId × Store (Watched σ) × Host} {v : Watched σ}
    (h : TouchCalls p device slot x w made r) (hv : r.2.1.server = some v)
    (hcalls : v.calls = w.calls ++ calls) : calls = made := by
  have hserver : ∃ v', r.2.1.server = some ⟨v', w.calls ++ made⟩ := by
    cases h with
    | unasked => exact ⟨w.server, by rw [List.append_nil]; rfl⟩
    | placed _ _ _ _ _ => exact ⟨_, rfl⟩
    | broken _ _ _ _ _ _ => exact ⟨_, rfl⟩
  obtain ⟨v', hv'⟩ := hserver
  rw [hv] at hv'
  rw [Option.some.inj hv'] at hcalls
  exact (List.append_cancel_left hcalls).symm

variable [ParameterServer σ] [Contained σ]

theorem Consistent.touchCalls (hx : Consistent x) (harray : ∀ a ∈ p.array, x.2.pool.Has a)
    (hslot : x.1.registry.slotOf device = .ok slot) (hnone : x.1.find? p.id = none)
    (hw : x.1.server = some w) :
    ∃ calls, TouchCalls p device slot x w calls ((getValue p device).runFrom x) := by
  obtain ⟨s, h⟩ := x
  have hsome : (s.opened p).server.isSome := by
    rw [show (s.opened p).server = some w from hw]
    rfl
  -- Nothing was called, and the entry has got nothing.
  have hunasked : ∀ {fault k},
      (materialize p device slot).runFrom (s.opened p, h) = (.error fault, s.opened p, k) →
      ∃ calls, TouchCalls p device slot (s, h) w calls ((getValue p device).runFrom (s, h)) := by
    intro fault k hrun
    have hsame : s.opened p = (s.opened p).filled p.id [] (some w) := by
      rw [← hw]
      exact (filled_nil (s.opened p) p.id).symm
    refine ⟨[], ?_⟩
    rw [runFrom_getValue_new hslot hnone, hrun]
    dsimp only
    rw [hsame, failed_filled_opened hnone]
    exact .unasked
  rcases ha : p.array with _ | a
  · exact hunasked (materialize_unset ha)
  have hhas : h.pool.Has a := harray a ha
  have hlt : slot < s.registry.devices.length :=
    (List.getElem?_eq_some_iff.mp (Registry.slotOf_eq_ok.mp hslot)).1
  obtain ⟨q, hext, hstate, hspread⟩ :=
    runFrom_spread (s := s.opened p) (h := h) a slot 0 s.registry.devices
  rcases hrun : (spread a slot 0 s.registry.devices).runFrom (s.opened p, h) with ⟨fault | all, x⟩
  · rw [hrun] at hstate
    obtain rfl : x = (s.opened p, { h with pool := q }) := hstate
    exact hunasked (materialize_of_spread_error ha hsome hrun)
  rw [hrun] at hstate hspread
  obtain rfl : x = (s.opened p, { h with pool := q }) := hstate
  have hplacement : Placement s h.pool q device slot a all :=
    (hspread all hx.sound rfl).placement (s := s) hhas hlt hsome
  have hcanonical : all[slot]? = some a := (hplacement.canonical slot).mpr ⟨rfl, Or.inl hsome⟩
  obtain ⟨arrays, calls, r, v, k, hcalls, hregister⟩ :=
    register_calls p.id all all (s := s.opened p) (h := { h with pool := q }) hw
  have hevolves : q.Evolves k.pool := by
    obtain ⟨_, _, k', hend, -, hevolves, -⟩ :=
      runFrom_register (s := s.opened p) (h := { h with pool := q }) p.id all all
    rw [hregister] at hend
    rw [show k = k' from congrArg Prod.snd hend]
    exact hevolves
  refine ⟨calls, ?_⟩
  cases hcalls with
  | all =>
    obtain ⟨l, hdone, hpool⟩ :=
      getValue_of_register hslot hsome hnone ha hrun hregister hcanonical
    rw [hdone]
    rw [← hpool] at hevolves
    exact .placed ha hplacement hext hevolves rfl
  | upTo hn =>
    rw [runFrom_getValue_new hslot hnone,
      materialize_of_register_error (s := s.opened p) ha hsome hrun hregister]
    dsimp only
    rw [failed_filled_opened hnone]
    exact .broken ha hplacement hext hevolves hn rfl

end Store

end DataParallel

import DataParallel.Proofs.Store.Runs

/-!
# Changing the devices

The devices are changed as a whole or not at all: a list that is empty or
repeats a device is refused, and then the registry, the entries and the server
are what they were.  So at any time the devices of a registry are those of the
last call that was served, and the slots are their places.  For a store this
holds whatever else is done with it, because nothing but `Store.setServer`
touches its registry.
-/

namespace DataParallel

open Step

namespace Store

variable {σ : Type}

/-! ## What leaves the registry alone -/

/-- The registry is the same. -/
def KeepsRegistry (x y : Store σ × Host) : Prop := y.1.registry = x.1.registry

instance : IsPreorder (Store σ × Host) KeepsRegistry where
  refl _ := rfl
  trans _ _ _ hxy hyz := Eq.trans hyz hxy

namespace KeepsRegistry

/-- What happens on the host alone. -/
theorem second {α : Type} (step : Step Host α) :
    Along KeepsRegistry (step.second : Step (Store σ × Host) α) :=
  fun _ => rfl

theorem onServer (step : Step (σ × Host) Unit) : Along KeepsRegistry (Store.onServer step) := by
  rintro ⟨s, h⟩
  rw [KeepsRegistry, Store.onServer, runFrom_make]
  dsimp only
  split <;> rfl

theorem addReplica (id : String) (a : ArrayId) :
    Along KeepsRegistry (Store.addReplica id a : Step (Store σ × Host) Unit) :=
  fun _ => rfl

theorem replicate (a : ArrayId) (device : Device) :
    Along KeepsRegistry (Store.replicate a device : Step (Store σ × Host) ArrayId) :=
  along_bind along_get fun _ => second _

theorem placeAlone (p : Parameter) (a : ArrayId) (device : Device) :
    Along KeepsRegistry (Store.placeAlone p a device : Step (Store σ × Host) Unit) := by
  refine along_bind along_get fun x => ?_
  dsimp only
  split
  · exact along_bind (replicate a device) fun b =>
      along_bind (addReplica p.id b) fun _ => second _
  · exact along_bind (along_pure a) fun b =>
      along_bind (addReplica p.id b) fun _ => second _

theorem spread (a : ArrayId) (slot first : Nat) (devices : List Device) :
    Along KeepsRegistry (Store.spread a slot first devices : Step (Store σ × Host) _) := by
  induction devices generalizing first with
  | nil => exact along_pure _
  | cons device rest ih =>
    have hrest : ∀ b, Along KeepsRegistry (do
        return b :: (← Store.spread a slot (first + 1) rest) : Step (Store σ × Host) _) :=
      fun b => along_bind (ih _) fun _ => along_pure _
    rw [Store.spread]
    split
    · exact along_bind (along_pure a) hrest
    · exact along_bind (replicate a device) hrest

section Serving

variable [ParameterServer σ]

theorem register (id : String) (all todo : List ArrayId) :
    Along KeepsRegistry (Store.register id all todo : Step (Store σ × Host) Unit) := by
  induction todo with
  | nil => exact along_pure _
  | cons a rest ih =>
    exact along_bind (onServer _) fun _ => along_bind (addReplica _ _) fun _ => ih

theorem materialize (p : Parameter) (device : Device) (slot : Nat) :
    Along KeepsRegistry (Store.materialize p device slot : Step (Store σ × Host) Unit) := by
  refine along_bind (along_ofExcept _) fun a => along_bind along_get fun x => ?_
  split
  · exact placeAlone p a device
  · refine along_bind along_get fun x => along_bind (spread _ _ _ _) fun arrays => ?_
    exact along_bind (register _ _ _) fun _ => second _

theorem take (p : Parameter) (device : Device) (slot : Nat) :
    Along KeepsRegistry (Store.take p device slot : Step (Store σ × Host) ArrayId) := by
  have hattempt : Along KeepsRegistry (attempt (Store.materialize p device slot) :
      Step (Store σ × Host) _) := materialize p device slot
  refine along_bind along_get fun x => ?_
  dsimp only
  split
  · exact along_throw_bind _
  · split
    · refine along_bind hattempt fun result => ?_
      rcases result with fault | ⟨⟨⟩⟩
      · exact along_bind (along_modify fun _ => rfl) fun _ => along_throw_bind _
      · refine along_bind (along_modify fun _ => rfl) fun _ => along_bind along_get fun x => ?_
        split
        · exact along_pure _
        · exact along_throw _
    · refine along_bind along_get fun x => ?_
      split
      · exact along_pure _
      · exact along_throw _

/-- Asking for a parameter leaves the registry alone. -/
theorem getValue (p : Parameter) (device : Device) :
    Along KeepsRegistry (Store.getValue p device : Step (Store σ × Host) ArrayId) := by
  have hentry : Along KeepsRegistry (ensureEntry p : Step (Store σ × Host) Unit) := by
    refine along_bind along_get fun x => ?_
    split
    · exact along_pure _
    · exact along_modify fun _ => rfl
  have hslot : Along KeepsRegistry (slotOf device : Step (Store σ × Host) Nat) :=
    along_bind along_get fun x => along_ofExcept _
  exact along_bind hslot fun slot => along_bind hentry fun _ => take p device slot

/-- A round leaves the registry alone. -/
theorem updateAll : Along KeepsRegistry (Store.updateAll : Step (Store σ × Host) Unit) :=
  along_round (fun _ => second _) (fun _ _ _ => onServer _) fun _ _ _ => onServer _

end Serving

end KeepsRegistry

/-! ## Going over to other devices -/

/-- Why a store does not go over to a server and devices. -/
inductive Refused (server : Option σ) (devices : List Device) : Fault → Prop where
  | serverless : server = none → Refused server devices .serverMissing
  | devices {fault : Fault} : Registry.Refused devices fault → Refused server devices fault

/-- What going over to a server and devices comes to. -/
structure Switched (server : Option σ) (devices : List Device) (x : Store σ × Host)
    (outcome : Except Fault Unit × Store σ × Host) : Prop where
  refused_iff : (∃ fault, outcome.1 = .error fault) ↔
    server = none ∨ devices = [] ∨ ¬devices.Nodup
  refused : ∀ fault, outcome.1 = .error fault → Refused server devices fault ∧ outcome.2 = x
  done : outcome.1 = .ok () → ∃ registry k, registry.Inverse devices ∧ k.pool = x.2.pool ∧
    outcome.2 = ({ x.1 with registry := registry, entries := [], server := server }, k)

theorem switched_setServer (server : Option σ) (devices : List Device) (x : Store σ × Host) :
    Switched server devices x ((setServer server devices).runFrom x) := by
  rcases server with _ | v
  · have hrun : (setServer none devices).runFrom x = (.error .serverMissing, x) := rfl
    rw [hrun]
    refine ⟨⟨fun _ => Or.inl rfl, fun _ => ⟨_, rfl⟩⟩, ?_, nofun⟩
    intro fault h
    rw [← Except.error.inj h]
    exact ⟨.serverless rfl, rfl⟩
  · rcases Registry.ofDevices_cases devices with
      ⟨fault, hrefused, herror⟩ | ⟨r, haccept, hdevices, hok⟩
    · rw [setServer_refused x v herror]
      refine ⟨⟨fun _ => Or.inr hrefused.unfit, fun _ => ⟨fault, rfl⟩⟩, ?_, nofun⟩
      intro fault' h
      rw [← Except.error.inj h]
      exact ⟨.devices hrefused, rfl⟩
    · obtain ⟨k, hpool, hrun⟩ := setServer_ok x v hok
      rw [hrun]
      refine ⟨⟨nofun, ?_⟩, nofun, fun _ => ⟨r, k, hdevices ▸ r.inverse, hpool, rfl⟩⟩
      rintro (hnone | hunfit)
      · cases hnone
      · exact absurd haccept (Registry.not_acceptable_iff.mpr hunfit)

/-- The devices that a move asks for. -/
def Move.asked : Move σ → Option (List Device)
  | .setServer (some _) devices => some devices
  | _ => none

theorem Switched.devices_eq {server : Option σ} {devices : List Device} {x : Store σ × Host}
    {outcome : Except Fault Unit × Store σ × Host} (h : Switched server devices x outcome) :
    outcome.2.1.registry.devices =
      Registry.lastAccepted x.1.registry.devices (Move.setServer server devices).asked.toList := by
  obtain ⟨result, y⟩ := outcome
  rcases server with _ | v
  · obtain ⟨fault, hfault⟩ := h.refused_iff.mpr (Or.inl rfl)
    exact congrArg (·.1.registry.devices) (h.refused fault hfault).2
  · rw [Move.asked, Option.toList_some, Registry.lastAccepted_singleton]
    split
    · next haccept =>
      have hresult : result = .ok () := by
        rcases result with fault | ⟨⟨⟩⟩
        · rcases h.refused_iff.mp ⟨fault, rfl⟩ with hnone | hunfit
          · cases hnone
          · exact absurd haccept (Registry.not_acceptable_iff.mpr hunfit)
        · rfl
      obtain ⟨registry, k, hinverse, -, rfl⟩ := h.done hresult
      exact hinverse.devices_eq
    · next hnot =>
      obtain ⟨fault, hfault⟩ := h.refused_iff.mpr (Or.inr (Registry.not_acceptable_iff.mp hnot))
      exact congrArg (·.1.registry.devices) (h.refused fault hfault).2

section Moves

variable [ParameterServer σ]

/-- The devices after a move. -/
theorem Move.devices_after (x : Store σ × Host) (move : Move σ) :
    (move.after x).1.registry.devices =
      Registry.lastAccepted x.1.registry.devices move.asked.toList := by
  cases move with
  | getValue p device => exact congrArg Registry.devices (KeepsRegistry.getValue p device x)
  | updateAll => exact congrArg Registry.devices (KeepsRegistry.updateAll x)
  | setServer server devices => exact (switched_setServer server devices x).devices_eq
  | reset id => cases id <;> rfl
  | elsewhere change host => rfl

/-- The devices after moves, whether the calls succeed or not. -/
theorem Move.devices_after_all (x : Store σ × Host) (moves : List (Move σ)) :
    (moves.foldl Move.after x).1.registry.devices =
      Registry.lastAccepted x.1.registry.devices (moves.filterMap Move.asked) := by
  induction moves using List.reverseRecOn with
  | nil => rfl
  | append_singleton moves move ih =>
    have hone : [move].filterMap Move.asked = move.asked.toList := by
      rw [List.filterMap_cons]
      cases move.asked <;> rfl
    rw [List.foldl_append, List.foldl_cons, List.foldl_nil, List.filterMap_append,
      Registry.lastAccepted_append, ← ih, Move.devices_after, hone]

variable (σ) in
/-- The slots of a registry are at any time the places in the list of the last call that was
served, for a registry that began empty and for the one of a store.  A call is refused exactly for
a list that is empty or repeats a device, or without a server, and then it changes nothing; a
store that goes over to a server has it, and no entries. -/
theorem devices_of_last_accepted :
    (∀ calls : List Registry.Call, (Registry.empty.afterAll calls).Inverse
      (Registry.lastAccepted [] (calls.map Registry.Call.devices))) ∧
    (∀ (call : Registry.Call) (r : Registry),
      Registry.Replaced call.devices r (call.step.runFrom r)) ∧
    (∀ (x : Store σ × Host) (moves : List (Move σ)),
      (moves.foldl Move.after x).1.registry.Inverse
        (Registry.lastAccepted x.1.registry.devices (moves.filterMap Move.asked))) ∧
    ∀ (server : Option σ) (devices : List Device) (x : Store σ × Host),
      Switched server devices x ((setServer server devices).runFrom x) := by
  refine ⟨fun calls => ?_, fun call r => call.replaced r, fun x moves => ?_, switched_setServer⟩
  · have hinverse := (Registry.empty.afterAll calls).inverse
    rw [Registry.devices_afterAll] at hinverse
    exact hinverse
  · have hinverse := (moves.foldl Move.after x).1.registry.inverse
    rw [Move.devices_after_all] at hinverse
    exact hinverse

end Moves

end Store

end DataParallel

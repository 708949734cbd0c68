import DataParallel.Store.Basic

/-!
# Placing replicas

`Store.getValue` has three parts, each of which runs undisturbed: the slot of the device is
looked up, the entry of the parameter is found or made, and under the lock of the entry the
replicas are placed if they are not placed yet.
-/

namespace DataParallel.Store

variable {σ : Type}

/-- The slot of a device. -/
def slotOf (device : Device) : Step (Store σ × Host) Nat := do
  Step.ofExcept ((← get).1.registry.slotOf device)

/-- Makes the entry of a parameter if there is none. -/
def ensureEntry (p : Parameter) : Step (Store σ × Host) Unit := do
  if (← get).1.contains p.id then return
  let e : Entry := ⟨p.requiresGradient.truthy, [], false, false⟩
  modify fun (s, h) => ({ s with entries := Keyed.put p.id e s.entries }, h)

/-- A copy of an array on a device, with a gradient, bound to the manager of the store. -/
def replicate (a : ArrayId) (device : Device) : Step (Store σ × Host) ArrayId := do
  let manager := (← get).1.manager
  Step.second (Host.onPool do
    let copy ← Pool.toDevice a device true
    Pool.attach copy manager
    return copy)

/-- Puts a replica into the next slot of an entry. -/
def addReplica (id : String) (a : ArrayId) : Step (Store σ × Host) Unit :=
  modify fun (s, h) =>
    (s.updateEntry id fun e => { e with replicas := e.replicas ++ [a] }, h)

/-- Places the one array of a store without a server: the canonical array itself if it is on the
device already and need not be copied. -/
def placeAlone (p : Parameter) (a : ArrayId) (device : Device) :
    Step (Store σ × Host) Unit := do
  let (s, h) ← get
  let placed ←
    if s.copy.truthy || (h.pool.array a).device ≠ device then replicate a device else pure a
  addReplica p.id placed
  note .debug ("Placed " ++ p.name.display ++ "[" ++ p.id ++ "] on " ++ device.text)

/-- The arrays for all slots, from the given one on: the canonical array for its own slot, and
copies for the others. -/
def spread (a : ArrayId) (slot : Nat) : Nat → List Device → Step (Store σ × Host) (List ArrayId)
  | _, [] => return []
  | i, device :: rest => do
    let replica ← if i = slot then pure a else replicate a device
    return replica :: (← spread a slot (i + 1) rest)

/-- Registers the arrays with the server, once for each slot. -/
def register [ParameterServer σ] (id : String) (all : List ArrayId) :
    List ArrayId → Step (Store σ × Host) Unit
  | [] => pure ()
  | a :: rest => do
    onServer (ParameterServer.init id all)
    addReplica id a
    register id all rest

/-- Places the replicas of a parameter. -/
def materialize [ParameterServer σ] (p : Parameter) (device : Device) (slot : Nat) :
    Step (Store σ × Host) Unit := do
  let a ← Step.ofExcept p.value
  if (← get).1.server.isNone then placeAlone p a device
  else
    let arrays ← spread a slot 0 (← get).1.registry.devices
    register p.id arrays arrays
    note .debug ("Placed " ++ p.name.display ++ "[" ++ p.id ++ "] on " ++
      Number.intText arrays.length ++ " devices, canonical at slot " ++ Number.intText slot)

/-- The part under the lock of the entry: refuses a failed entry, places the replicas if they are
not placed, and takes the replica of the slot. -/
def take [ParameterServer σ] (p : Parameter) (device : Device) (slot : Nat) :
    Step (Store σ × Host) ArrayId := do
  let e := ((← get).1.find? p.id).getD default
  if e.failed then throw (.partlyPlaced p.id)
  if !e.materialized then
    match ← Step.attempt (materialize p device slot) with
    | .ok () =>
      modify fun (s, h) => (s.updateEntry p.id fun e => { e with materialized := true }, h)
    | .error fault =>
      modify fun (s, h) => (s.updateEntry p.id fun e => { e with failed := true }, h)
      throw fault
  match ((← get).1.replicas p.id)[slot]? with
  | some a => return a
  | none => throw .outOfRange

/-- The value of a parameter on a registered device. -/
def getValue [ParameterServer σ] (p : Parameter) (device : Device) :
    Step (Store σ × Host) ArrayId := do
  let slot ← slotOf device
  ensureEntry p
  take p device slot

end DataParallel.Store

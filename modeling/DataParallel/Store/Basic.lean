import DataParallel.Device.Registry
import DataParallel.Keyed
import DataParallel.Parameter.Basic
import DataParallel.Server.Basic

/-!
# The parameter store

A store hands out the value of a parameter on a device.  Without a server it has one slot and one
array for each parameter; with a server it has a slot for each registered device and keeps a
replica of every parameter for each of them.  Replicas are placed when a parameter is first asked
for: the canonical array takes the slot of the device that was asked for, and the other slots get
copies.  A placement that fails leaves the entry unusable until it is dropped.
-/

namespace DataParallel

/-- What a store keeps for a parameter. -/
structure Entry where
  /-- Whether the parameter required a gradient when it was first asked for. -/
  trainable : Bool
  replicas : List ArrayId
  materialized : Bool
  failed : Bool
  deriving DecidableEq, Repr, Inhabited

/-- A parameter store over servers of a kind. -/
structure Store (σ : Type) where
  manager : ManagerId
  copy : Value
  registry : Registry
  entries : List (String × Entry)
  server : Option σ

namespace Store

variable {σ α : Type}

/-- The name of the component in the journal. -/
def component : String := "parameter_store"

/-- A store without a server, on the device of its manager. -/
def new (manager : ManagerId) (device : Device) (copy : Value) : Store σ :=
  ⟨manager, copy, .single device, [], none⟩

/-- Starts a store on a host. -/
def start (manager : ManagerId) (copy : Value := .bool false) : Step Host (Store σ) := do
  let device := ((← get).pool.manager manager).device
  Host.onJournal (Journal.openLogger component)
  return new manager device copy

/-- The entry of a parameter. -/
def find? (s : Store σ) (id : String) : Option Entry := s.entries.lookup id

/-- The replicas of a parameter in slot order. -/
def replicas (s : Store σ) (id : String) : List ArrayId := (s.find? id).elim [] Entry.replicas

/-- Whether a parameter has an entry. -/
def contains (s : Store σ) (id : String) : Bool := (s.find? id).isSome

/-- Whether the replicas of a parameter are placed. -/
def isMaterialized (s : Store σ) (id : String) : Bool := (s.find? id).any Entry.materialized

/-- Changes the entry of a parameter. -/
def updateEntry (s : Store σ) (id : String) (f : Entry → Entry) : Store σ :=
  { s with entries := Keyed.change id f s.entries }

/-- Writes into the journal. -/
def note (severity : Severity) (message : String) : Step (Store σ × Host) Unit :=
  Step.second (Host.note component severity message)

/-- Goes over to a server with the given devices, and drops all entries. -/
def setServer (server : Option σ) (devices : List Device) : Step (Store σ × Host) Unit := do
  match server with
  | none => throw .serverMissing
  | some server =>
    let registry ← Step.ofExcept (Registry.ofDevices devices)
    let dropped := (← get).1.entries.length
    modify fun (s, h) =>
      ({ s with registry := registry, entries := [], server := some server }, h)
    if dropped ≠ 0 then
      note .warning ("Device configuration changed, dropped " ++ Number.intText dropped ++
        " replica entries")
    note .info ("Distributed mode over " ++ Fault.devicesText devices)

/-- Drops the entry of a parameter, or all entries. -/
def reset (s : Store σ) : Option String → Store σ
  | none => { s with entries := [] }
  | some id => { s with entries := Keyed.drop id s.entries }

/-- Runs a step of the server, if there is one. -/
def onServer (step : Step (σ × Host) Unit) : Step (Store σ × Host) Unit :=
  .make fun (s, h) =>
    match s.server with
    | none => (.ok (), s, h)
    | some server =>
      let (result, server, h) := step.runFrom (server, h)
      (result, { s with server := some server }, h)

end Store

end DataParallel

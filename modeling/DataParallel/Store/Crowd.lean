import DataParallel.Store.Placement

/-!
# Several calls at once

Several threads ask a store for values at the same time.  A call of `Store.getValue` has three
parts, and each of them runs undisturbed: the registry, the table of entries and the entry itself
are guarded one after the other.  Between two parts of one call, parts of the others may run in any
order.
-/

namespace DataParallel

variable {σ : Type}

/-- How far a call has come. -/
inductive Stage where
  | begun
  /-- The slot of the device is known. -/
  | located (slot : Nat)
  /-- The entry of the parameter is in the table. -/
  | listed (slot : Nat)
  | ended (result : Except Fault ArrayId)

/-- A call of a thread: what it asks for, and how far it has come. -/
structure Caller where
  parameter : Parameter
  device : Device
  stage : Stage

namespace Caller

/-- A call that has just begun. -/
def begin (p : Parameter) (device : Device) : Caller := ⟨p, device, .begun⟩

/-- The next part of a call. -/
def next [ParameterServer σ] (c : Caller) : Step (Store σ × Host) Stage := do
  match c.stage with
  | .begun => return .located (← Store.slotOf c.device)
  | .located slot =>
    Store.ensureEntry c.parameter
    return .listed slot
  | .listed slot => return .ended (.ok (← Store.take c.parameter c.device slot))
  | .ended result => return .ended result

/-- The call and the store after the next part; a fault ends the call. -/
def advance [ParameterServer σ] (c : Caller) (x : Store σ × Host) : Caller × Store σ × Host :=
  match c.next.runFrom x with
  | (.ok stage, y) => ({ c with stage := stage }, y)
  | (.error fault, y) => ({ c with stage := .ended (.error fault) }, y)

/-- The result of a call that has ended. -/
def result? (c : Caller) : Option (Except Fault ArrayId) :=
  match c.stage with
  | .ended result => some result
  | _ => none

/-- Whether the next part of a call places the replicas of its parameter. -/
def isPlacing (c : Caller) (s : Store σ) : Bool :=
  match c.stage with
  | .listed _ => (s.find? c.parameter.id).any fun e => !e.failed && !e.materialized
  | _ => false

end Caller

/-- Calls of several threads, and the store and the host that they share. -/
structure Crowd (σ : Type) where
  callers : List Caller
  shared : Store σ × Host

namespace Crowd

/-- One of the calls goes on by one part. -/
def turn [ParameterServer σ] (c : Crowd σ) (i : Nat) : Crowd σ :=
  match c.callers[i]? with
  | none => c
  | some caller =>
    ⟨c.callers.set i (caller.advance c.shared).1, (caller.advance c.shared).2⟩

/-- The crowd after the turns of a schedule. -/
def after [ParameterServer σ] (c : Crowd σ) (turns : List Nat) : Crowd σ := turns.foldl turn c

/-- The result of a call of the crowd. -/
def result? (c : Crowd σ) (i : Nat) : Option (Except Fault ArrayId) :=
  c.callers[i]?.bind Caller.result?

/-- The parameter whose replicas are placed if a call goes on. -/
def placing? (c : Crowd σ) (i : Nat) : Option String :=
  (c.callers[i]?.filter (·.isPlacing c.shared.1)).map (·.parameter.id)

/-- The calls that place the replicas of a parameter in the turns of a schedule. -/
def placers [ParameterServer σ] (id : String) (c : Crowd σ) : List Nat → List Nat
  | [] => []
  | i :: turns => (if c.placing? i = some id then [i] else []) ++ placers id (c.turn i) turns

end Crowd

end DataParallel

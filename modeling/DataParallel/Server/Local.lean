import DataParallel.Optimizer.Update
import DataParallel.Server.Basic

/-!
# The local server

A parameter server within one process.  It keeps one master of every parameter; a push adds up
the gradients of all devices, and the next pull applies the optimizer once and writes the result
into all arrays.  A master without dimensions is a bare number once it has been updated.  Masters
and gradients are numbers; what comes of arrays of other items, which only a loaded record can
bring, is left open, and a call that would read or write them ends with `notNumbers`.
-/

namespace DataParallel

/-- How often each call was made, and how many updates the pulls made. -/
structure ServerCounters where
  inits : Nat
  pushes : Nat
  pulls : Nat
  updates : Nat
  deriving DecidableEq, Repr

/-- A parameter server within one process. -/
structure LocalServer where
  optimizer : Optimizer
  masters : List (String × Tensor)
  pending : List (String × Tensor)
  priorities : List (String × Int)
  /-- The parameters whose masters are results of updates. -/
  updated : List String
  counters : ServerCounters

namespace LocalServer

/-- The name of the component in the journal. -/
def component : String := "local_ps"

/-- A server without parameters. -/
def new (optimizer : Optimizer) : LocalServer := ⟨optimizer, [], [], [], [], ⟨0, 0, 0, 0⟩⟩

instance : Inhabited LocalServer := ⟨new default⟩

/-- Starts a server on a host. -/
def start (optimizer : Optimizer) : Step Host LocalServer := do
  Host.onJournal (Journal.openLogger component)
  return new optimizer

/-- The contents of an array of numbers. -/
def read (a : ArrayId) : Step (LocalServer × Host) Tensor :=
  Step.second (Host.onPool (Pool.read a))

/-- Registers a parameter under the contents of the first array, unless it is known. -/
def init (id : String) (arrays : List ArrayId) : Step (LocalServer × Host) Unit := do
  match arrays with
  | [] => throw (.nothingToRegister id)
  | first :: _ =>
    modify fun (s, h) => ({ s with counters.inits := s.counters.inits + 1 }, h)
    if ((← get).1.masters.lookup id).isSome then return
    let t ← read first
    modify fun (s, h) => ({ s with masters := Keyed.put id t s.masters }, h)
    Step.second (Host.note component .debug
      ("Registered " ++ id ++ " shape=" ++ Fault.shapeText t.shape ++ " across " ++
        Number.intText arrays.length ++ " devices"))

/-- The sum of the contents of arrays from left to right, if there are any. -/
def total : Option Tensor → List ArrayId → Step (LocalServer × Host) (Option Tensor)
  | sum, [] => return sum
  | none, a :: rest => do total (some (← read a)) rest
  | some sum, a :: rest => do
    let t ← read a
    total (some (← Step.ofExcept (sum.combine .add t))) rest

/-- The master of a parameter, which must be registered. -/
def master (id : String) : Step (LocalServer × Host) Tensor := do
  match (← get).1.masters.lookup id with
  | some t => return t
  | none => throw (.unregistered id)

/-- Adds the sum of gradients to what is pending; no gradients change nothing. -/
def push (id : String) (gradients : List ArrayId) (priority : Int) :
    Step (LocalServer × Host) Unit := do
  let _ ← master id
  modify fun (s, h) => ({ s with counters.pushes := s.counters.pushes + 1 }, h)
  match ← total none gradients with
  | none => return
  | some sum =>
    let sum ← match (← get).1.pending.lookup id with
      | none => pure sum
      | some old => Step.ofExcept (old.combine .add sum)
    modify fun (s, h) =>
      ({ s with
          pending := Keyed.put id sum s.pending
          priorities := Keyed.put id priority s.priorities }, h)

/-- Takes the pending gradient of a parameter, which is then no longer pending. -/
def takePending (id : String) : Step (LocalServer × Host) (Option Tensor) := do
  let pending := (← get).1.pending.lookup id
  modify fun (s, h) => ({ s with pending := Keyed.drop id s.pending }, h)
  return pending

/-- Applies the optimizer to the pending gradient, if there is one. -/
def settle (id : String) : Step (LocalServer × Host) Unit := do
  let weight ← master id
  match ← takePending id with
  | none => return
  | some grad =>
    let result ← Step.first
      ((Optimizer.update id weight grad).within optimizer fun o s => { s with optimizer := o })
    modify fun (s, h) =>
      ({ s with
          masters := Keyed.put id result s.masters
          updated := s.updated.insert id
          counters.updates := s.counters.updates + 1 }, h)

/-- Writes a tensor into arrays one after the other. -/
def writeAll (t : Tensor) : List ArrayId → Step (LocalServer × Host) Unit
  | [] => pure ()
  | a :: rest => do
    Step.second (Host.onPool (Pool.set a t))
    writeAll t rest

/-- Applies what is pending and writes the master into all arrays. -/
def pull (id : String) (weights : List ArrayId) : Step (LocalServer × Host) Unit := do
  let _ ← master id
  modify fun (s, h) => ({ s with counters.pulls := s.counters.pulls + 1 }, h)
  settle id
  writeAll (← master id) weights

/-- The master of a parameter, if it is registered. -/
def get? (s : LocalServer) (id : String) : Option Tensor := s.masters.lookup id

/-- The master of a parameter as a bare number, if it is one. -/
def number? (s : LocalServer) (id : String) : Option Value :=
  match s.get? id with
  | some t => if t.shape = [] ∧ id ∈ s.updated then some t.number else none
  | none => none

/-- The priority of the last push with gradients. -/
def priority? (s : LocalServer) (id : String) : Option Int := s.priorities.lookup id

/-- Whether a parameter is registered. -/
def contains (s : LocalServer) (id : String) : Bool := (s.get? id).isSome

/-- The numbers that describe a server. -/
def stats (s : LocalServer) : List (String × Nat) :=
  [("num_parameters", s.masters.length), ("pending_updates", s.pending.length),
   ("total_inits", s.counters.inits), ("total_pushes", s.counters.pushes),
   ("total_pulls", s.counters.pulls), ("total_updates", s.counters.updates)]

/-- Forgets all parameters, in the optimizer as well; the counters stay. -/
def close (s : LocalServer) : LocalServer :=
  { s with
    masters := [], pending := [], priorities := [], updated := []
    optimizer := s.optimizer.reset }

instance : ParameterServer LocalServer where
  init := init
  push := push
  pull id weights _ := pull id weights

end LocalServer

end DataParallel

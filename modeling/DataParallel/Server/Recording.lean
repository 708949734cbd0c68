import DataParallel.Pool.Literal
import DataParallel.Server.Basic

/-!
# The recording server

A server for trials of a store.  It records every call that it does not refuse, refuses calls on
demand, and answers a pull by filling all arrays with a number or a nested list of numbers.
-/

namespace DataParallel

/-- The kinds of calls. -/
inductive CallKind where
  | init | push | pull
  deriving DecidableEq, Repr

/-- A call of a server; an init call has no priority. -/
structure Call where
  kind : CallKind
  parameter : String
  arrays : List ArrayId
  priority : Option Int
  deriving DecidableEq, Repr

/-- A server that records its calls. -/
structure RecordingServer where
  calls : List Call
  /-- The number of init calls after which the next one is refused. -/
  refusedInit : Option Int
  /-- The parameter whose pushes are refused. -/
  refusedPush : Option String
  /-- The parameter whose pulls are refused. -/
  refusedPull : Option String
  /-- The number that a pull writes, or a nested list of numbers. -/
  fill : Value

namespace RecordingServer

/-- A server that has recorded nothing and refuses nothing. -/
def new : RecordingServer := ⟨[], none, none, none, .float 7.0⟩

instance : Inhabited RecordingServer := ⟨new⟩

/-- The number of recorded init calls. -/
def initCount (s : RecordingServer) : Nat := s.calls.countP fun c => c.kind == .init

/-- Records a call. -/
def record (c : Call) : Step (RecordingServer × Host) Unit :=
  modify fun (s, h) => ({ s with calls := s.calls ++ [c] }, h)

/-- Fills an array with the numbers of the server, stretched to its shape. -/
def fillArray (a : ArrayId) : Step (RecordingServer × Host) Unit := do
  Step.second (Host.onPool (Pool.fillWith a (← get).1.fill))

/-- Fills arrays one after the other. -/
def fillAll : List ArrayId → Step (RecordingServer × Host) Unit
  | [] => pure ()
  | a :: rest => do
    fillArray a
    fillAll rest

/-- Records an init call unless it is to be refused. -/
def init (id : String) (arrays : List ArrayId) : Step (RecordingServer × Host) Unit := do
  let (s, _) ← get
  if s.refusedInit = some (s.initCount : Int) then throw .initRefused
  record ⟨.init, id, arrays, none⟩

/-- Records a push unless it is to be refused. -/
def push (id : String) (gradients : List ArrayId) (priority : Int) :
    Step (RecordingServer × Host) Unit := do
  if (← get).1.refusedPush = some id then throw .pushRefused
  record ⟨.push, id, gradients, some priority⟩

/-- Records a pull and fills the arrays unless it is to be refused. -/
def pull (id : String) (weights : List ArrayId) (priority : Int) :
    Step (RecordingServer × Host) Unit := do
  if (← get).1.refusedPull = some id then throw .pullRefused
  record ⟨.pull, id, weights, some priority⟩
  fillAll weights

instance : ParameterServer RecordingServer where
  init := init
  push := push
  pull := pull

end RecordingServer

end DataParallel

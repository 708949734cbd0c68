import DataParallel.Store.Basic

/-!
# Synchronization

One round pushes the gradients of all trainable parameters to the server and then pulls all of
them, in the order in which they were first asked for.  The first has priority zero in each pass,
and every further one a lower priority.
-/

namespace DataParallel.Store

variable {σ : Type}

/-- The trainable parameters in the order in which they were first asked for. -/
def trainable (s : Store σ) : List String :=
  (s.entries.filter fun entry => entry.2.trainable).map (·.1)

/-- Refuses a round with a parameter whose placement failed. -/
def checkPlaced : List String → Step (Store σ × Host) Unit
  | [] => pure ()
  | id :: rest => do
    if ((← get).1.find? id).any Entry.failed then throw (.partlyPlaced id)
    checkPlaced rest

/-- The gradients of arrays. -/
def gradients : List ArrayId → Step (Store σ × Host) (List ArrayId)
  | [] => return []
  | a :: rest => do
    let g ← Step.second (Host.onPool (Pool.gradient a))
    return g :: (← gradients rest)

/-- Pushes the gradients of one parameter after the other. -/
def pushAll [ParameterServer σ] (rank : Nat) : List String → Step (Store σ × Host) Unit
  | [] => pure ()
  | id :: rest => do
    let gs ← gradients ((← get).1.replicas id)
    onServer (ParameterServer.push id gs (Int.negOfNat rank))
    pushAll (rank + 1) rest

/-- Pulls one parameter after the other into its replicas. -/
def pullAll [ParameterServer σ] (rank : Nat) : List String → Step (Store σ × Host) Unit
  | [] => pure ()
  | id :: rest => do
    onServer (ParameterServer.pull id ((← get).1.replicas id) (Int.negOfNat rank))
    pullAll (rank + 1) rest

/-- One round over all trainable parameters. -/
def updateAll [ParameterServer σ] : Step (Store σ × Host) Unit := do
  let (s, _) ← get
  if s.server.isNone then throw .noServer
  let ids := s.trainable
  checkPlaced ids
  pushAll 0 ids
  pullAll 0 ids

end DataParallel.Store

import DataParallel.Store.Crowd
import DataParallel.Store.Synchronization

/-!
# A round between calls

A round of `Store.updateAll` holds no lock while it goes through the parameters, so that calls of
other threads run between its parts.  It lists the trainable parameters, then refuses to go on if
the placement of one of them has failed, and then makes one push or pull after the other.  No call
drops an entry, so the round finds all that it has listed in the table.
-/

namespace DataParallel

variable {σ : Type} [ParameterServer σ]

namespace Store

/-- Pushes the gradients of one parameter. -/
def pushOne (rank : Nat) (id : String) : Step (Store σ × Host) Unit := do
  let gs ← gradients ((← get).1.replicas id)
  onServer (ParameterServer.push id gs (Int.negOfNat rank))

/-- Pulls one parameter into its replicas. -/
def pullOne (rank : Nat) (id : String) : Step (Store σ × Host) Unit := do
  onServer (ParameterServer.pull id ((← get).1.replicas id) (Int.negOfNat rank))

end Store

/-- How far a round has come. -/
inductive Round where
  | begun
  /-- The trainable parameters are listed. -/
  | listed (ids : List String)
  /-- Some of the parameters are pushed, and the rest are to be pushed. -/
  | pushing (ids : List String) (rank : Nat) (rest : List String)
  /-- Some of the parameters are pulled, and the rest are to be pulled. -/
  | pulling (rank : Nat) (rest : List String)
  | ended (result : Except Fault Unit)

namespace Round

/-- The next part of a round. -/
def next : Round → Step (Store σ × Host) Round
  | begun => do
    let (s, _) ← get
    if s.server.isNone then throw .noServer
    return listed s.trainable
  | listed ids => do
    Store.checkPlaced ids
    return pushing ids 0 ids
  | pushing ids rank (id :: rest) => do
    Store.pushOne rank id
    return pushing ids (rank + 1) rest
  | pushing ids _ [] => return pulling 0 ids
  | pulling rank (id :: rest) => do
    Store.pullOne rank id
    return pulling (rank + 1) rest
  | pulling _ [] => return ended (.ok ())
  | ended result => return ended result

/-- The round and the store after the next part; a fault ends the round. -/
def advance (round : Round) (x : Store σ × Host) : Round × Store σ × Host :=
  match round.next.runFrom x with
  | (.ok later, y) => (later, y)
  | (.error fault, y) => (ended (.error fault), y)

/-- The parameters that the round will still push or pull. -/
def ahead : Round → List String
  | listed ids => ids
  | pushing ids _ rest => ids ++ rest
  | pulling _ rest => rest
  | _ => []

end Round

/-- A round and calls of other threads. -/
structure Meeting (σ : Type) where
  crowd : Crowd σ
  round : Round

namespace Meeting

/-- The store and the host that all share. -/
def shared (m : Meeting σ) : Store σ × Host := m.crowd.shared

/-- One of the calls goes on by one part, or the round does. -/
def turn (m : Meeting σ) : Option Nat → Meeting σ
  | some i => { m with crowd := m.crowd.turn i }
  | none => ⟨⟨m.crowd.callers, (m.round.advance m.shared).2⟩, (m.round.advance m.shared).1⟩

/-- The meeting after the turns of a schedule. -/
def after (m : Meeting σ) (turns : List (Option Nat)) : Meeting σ := turns.foldl turn m

end Meeting

end DataParallel

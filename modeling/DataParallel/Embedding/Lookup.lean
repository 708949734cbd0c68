import DataParallel.Embedding.Basic
import DataParallel.Store.Placement

/-!
# Looking up embeddings

A lookup takes the rows of the weight, as a store places it on the device of the indices.  A
single item gives one row; nested items give the rows in the same nesting.
-/

namespace DataParallel.Embedding

variable {σ : Type}

/-- A step on the pool. -/
def onPool {α : Type} (step : Step Pool α) : Step (Store σ × Host) α :=
  Step.second (Host.onPool step)

/-- The rows of the weight at the indices, on the device of the indices. -/
def forwardIndices [ParameterServer σ] (e : Embedding) (indices : ArrayId) :
    Step (Store σ × Host) ArrayId := do
  let device := ((← get).2.pool.array indices).device
  let weight ← Store.getValue e.weight device
  let given ← onPool (Pool.items indices)
  if given.shape = [] then
    let single ← onPool (Pool.reshape indices [1])
    let rows ← onPool (Pool.gather weight single)
    let size ← Step.ofExcept (Shape.dimension e.size)
    onPool (Pool.reshape rows [size])
  else onPool (Pool.gather weight indices)

/-- The rows of the weight for items, whose indices are made by a manager. -/
def forward [ParameterServer σ] (e : Embedding) (m : ManagerId) (items : Value) :
    Step (Store σ × Host) ArrayId := do
  let nested ← Step.ofExcept (e.embed items)
  let t ← Step.ofExcept (Tensor.ofValue (some .int64) nested)
  let indices ← onPool (Pool.create m (.ok t))
  e.forwardIndices indices

end DataParallel.Embedding

import DataParallel.Pool.Basic

/-!
# Views in other orders

A tensor seen with its dimensions in reverse, or with its rows backwards, and the order in which
the elements of such a view lie in memory.
-/

namespace DataParallel.Tensor

/-- The tensor with its dimensions in reverse. -/
def transposed (t : Tensor) : Tensor :=
  t.pick t.shape.reverse fun i => Shape.transposedIndex t.shape i 0

/-- The tensor with its rows backwards. -/
def backwards (t : Tensor) : Tensor := t.pick t.shape (Shape.backwardsIndex t.shape)

/-- A tensor as it is seen under the name of an order, and its order in memory.  A tensor without
dimensions has no rows. -/
def seenAs (t : Tensor) : String → Except Fault (Tensor × MemoryOrder)
  | "F" => .ok (t, .columnMajor)
  | "T" => .ok (t.transposed, .columnMajor)
  | "rev" => if t.shape = [] then .error .outOfRange else .ok (t.backwards, .reversedRows)
  | _ => .ok (t, .rowMajor)

end DataParallel.Tensor

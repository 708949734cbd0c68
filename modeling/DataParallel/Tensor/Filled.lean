import DataParallel.Dtype.ItemFormat
import DataParallel.Tensor.Basic
import DataParallel.Value.Reading

/-!
# Tensors on request

Shapes that come as loose values, and the tensors of zeros and ones that are asked for with them.
A dimension is a whole number within eight bytes; truth values are none.
-/

namespace DataParallel

namespace Shape

/-- The dimension that a value is. -/
def dimension : Value → Except Fault Int
  | .int n => if -(2 ^ 63 : Int) ≤ n ∧ n < 2 ^ 63 then .ok n else .error .badValue
  | _ => .error .wrongType

/-- The dimensions that values are.  Their number is looked at before any of them. -/
def dimensions (vs : List Value) : Except Fault (List Int) :=
  if maxRank < vs.length then .error .badValue else vs.mapM dimension

/-- The dimensions that a value asks for, where a number stands for a single dimension. -/
def ofValue : Value → Except Fault (List Int)
  | .list vs => dimensions vs
  | .tuple vs => dimensions vs
  | v => do return [← dimension v]

/-- The dimensions that arguments ask for, where a single list stands for its items. -/
def ofArguments : List Value → Except Fault (List Int)
  | [.list vs] => dimensions vs
  | [.tuple vs] => dimensions vs
  | vs => dimensions vs

/-- Dimensions without a negative one. -/
def checked (dims : List Int) : Except Fault Shape :=
  if dims.all (0 ≤ ·) then .ok (dims.map Int.toNat) else .error .badValue

/-- Dimensions of an array with items of a size, which must be addressable.  How much memory there
is does not count. -/
def settled (itemSize : Nat) (dims : List Int) : Except Fault Shape := do
  let shape ← checked dims
  if addressable itemSize shape then return shape else throw .badValue

end Shape

namespace Tensor

/-- The tensor of an element type and of dimensions that are asked for. -/
def filled (make : Dtype → Shape → Tensor) (dims : List Int) (dtype : Value) :
    Except Fault Tensor := do
  let dims ← Shape.dimensions (dims.map Value.int)
  let d ← Dtype.ofValue dtype
  return make d (← Shape.settled d.itemSize dims)

end Tensor

end DataParallel

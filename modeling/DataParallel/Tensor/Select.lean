import DataParallel.Fault
import DataParallel.Tensor.Basic

/-!
# Selecting rows and reshaping

A row is what one index of the first dimension leaves.  Rows are selected by an array of
positions, which count from the end if they are negative.
-/

namespace DataParallel.Tensor

/-- A position among `count` rows. -/
def rowIndex (count : Nat) (i : Int) : Except Fault Nat :=
  if 0 ≤ i ∧ i < count then .ok i.toNat
  else if -(count : Int) ≤ i ∧ i < 0 then .ok (i + count).toNat
  else .error .outOfRange

/-- The elements of a tensor as positions. -/
def positions (indices : Tensor) : List Int :=
  (indices.cast .int64).cells.map fun c => ElementType.toInt (.signed .eight) c

/-- The shape of the rows at the given positions, and for each place in it the element that comes
there.  The result may not have too many dimensions. -/
def selected (shape : Shape) (indices : Tensor) : Except Fault (Shape × (Nat → Nat)) := do
  let (count, rest) := match shape with
    | [] => (1, [])
    | d :: rest => (d, rest)
  if Shape.maxRank < (indices.shape ++ rest).length then throw .badValue
  let rows ← indices.positions.mapM (rowIndex count)
  let block := Shape.size rest
  return (indices.shape ++ rest, fun i => rows.getD (i / block) 0 * block + i % block)

/-- The shape that dimensions settle for a number of items of a size. -/
def reshaped (itemSize count : Nat) (dims : List Int) : Except Fault Shape :=
  match Shape.resolve? count dims with
  | some shape => if Shape.addressable itemSize shape then .ok shape else .error .badValue
  | none => .error .badValue

/-- The same elements in the shape that the given dimensions settle. -/
def reshape (t : Tensor) (dims : List Int) : Except Fault Tensor := do
  return t.withShape (← reshaped t.dtype.itemSize t.size dims)

end DataParallel.Tensor

import DataParallel.Pool.Array
import DataParallel.Tensor.Literal

/-!
# Writing nested lists into arrays

A nested list of numbers with a common type is written like a tensor of that type.  Otherwise its
members are converted one by one in the order in which the elements lie in memory, and those
before the first that cannot be converted are written.
-/

namespace DataParallel.Pool

/-- The number of elements that are converted at a time where bytes have to change places. -/
def blockLength : Nat := 128

/-- The tensor with members in place of its elements, as far as they could be converted in the
given order. -/
def overwritten (t : Tensor) (positions : List Nat) (members : List Value) :
    Tensor × Except Fault Unit :=
  let results := positions.map fun p =>
    (p, Tensor.memberCell t.dtype.element (members.getD p .null))
  let failure := results.findSome? fun (_, r) => match r with
    | .error fault => some fault
    | .ok _ => none
  let converted := results.filterMap fun (p, r) => r.toOption.map (p, ·)
  let before := (results.takeWhile fun (_, r) => r.toOption.isSome).length
  let written := if failure.isNone then converted
    else converted.take (if t.dtype.bigEndian then before / blockLength * blockLength else before)
  (Tensor.build t.dtype t.shape fun i => (written.lookup i).getD (t.cell i),
    failure.elim (.ok ()) .error)

/-- Overwrites the contents of an array with the members of a nested list of the same shape. -/
def setLiteral (a : ArrayId) (l : Literal) : Step Pool Unit := do
  let h ← held a
  match ← Step.ofExcept l.commonType? with
  | some t => set a (← Step.ofExcept (l.toTensor (.native t)))
  | none =>
    if l.shape ≠ h.shape then throw (.shapeMismatch h.shape l.shape)
    let b := (← get).buffer h.buffer
    match b.contents with
    | .tensor old =>
      let (contents, result) := overwritten old (b.order.positions old.shape) l.members
      modify fun p => p.updateBuffer h.buffer fun b => { b with contents := contents }
      Step.ofExcept result
    | .carried _ => throw .notNumbers

/-- Overwrites the contents of an array with the members of a nested list that is stretched to its
shape. -/
def fillWith (a : ArrayId) (v : Value) : Step Pool Unit := do
  let h ← held a
  setLiteral a (← Step.ofExcept (Literal.ofValue v >>= (·.stretched h.shape)))

end DataParallel.Pool

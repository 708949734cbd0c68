import DataParallel.Tensor.Arithmetic
import DataParallel.Value.Reading

/-!
# Tensors from nested lists

A number, or a list of equally shaped lists, is a literal, and an array if its members have an
element type.  The type is given, or it is the smallest of truth values, eight-byte integers and
eight-byte floats that all members have in common.
-/

namespace DataParallel

namespace Tensor

mutual

/-- The shape of a nested list; lists of unequal shapes have none. -/
def literalShape : Value → Except Fault Shape
  | .list vs => do return vs.length :: (← commonShape vs)
  | .tuple vs => do return vs.length :: (← commonShape vs)
  | _ => .ok []
termination_by structural v => v

/-- The shape that all members of a list have. -/
def commonShape : List Value → Except Fault Shape
  | [] => .ok []
  | [v] => literalShape v
  | v :: vs => do
    let shape ← literalShape v
    if (← commonShape vs) = shape then return shape else throw .badValue
termination_by structural vs => vs

end

mutual

/-- The numbers of a nested list from left to right. -/
def leaves : Value → List Value
  | .list vs => leavesOf vs
  | .tuple vs => leavesOf vs
  | v => [v]
termination_by structural v => v

/-- The numbers of several nested lists. -/
def leavesOf : List Value → List Value
  | [] => []
  | v :: vs => leaves v ++ leavesOf vs
termination_by structural vs => vs

end

/-- The numbers among values; anything else is refused. -/
def scalars (vs : List Value) : Except Fault (List Scalar) :=
  vs.mapM fun v => v.scalar?.elim (.error .wrongType) .ok

/-- A number as an element of a given type.  A float loses its fraction in an integer type, which
must hold what is left. -/
def scalarCell (t : ElementType) (s : Scalar) : Except Fault t.Cell :=
  match t, s with
  | .bool, s => .ok (if s.isZero then ElementType.bool.zero else ElementType.bool.one)
  | .float p, s => s.toCell (.float p)
  | t, .float x => do (Scalar.int (← (Value.float x).toInt)).toCell t
  | t, s => s.toCell t

/-- A member of a nested list as an element; a missing one is not a number, or false. -/
def memberCell (t : ElementType) (v : Value) : Except Fault t.Cell :=
  match t, v with
  | .bool, .null => .ok ElementType.bool.zero
  | .float p, .null => .ok (ElementType.ofFloatValue (.float p) .nan)
  | t, v =>
    match v.scalar? with
    | some s => scalarCell t s
    | none => .error .wrongType

/-- The type of a member: of truth values, floats and whole numbers of eight bytes, the latter
with a sign if there is room for it.  Missing members and larger numbers have none. -/
def memberType? : Value → Except Fault (Option ElementType)
  | .null => .ok none
  | .bool _ => .ok (some .bool)
  | .int n =>
    if Scalar.holds (.signed .eight) n then .ok (some (.signed .eight))
    else if Scalar.holds (.unsigned .eight) n then .ok (some (.unsigned .eight))
    else .ok none
  | .float _ => .ok (some (.float .double))
  | _ => .error .wrongType

end Tensor

/-- A nested list by its shape and its members in row-major order. -/
structure Literal where
  shape : Shape
  members : List Value

namespace Literal

/-- The literal that a nested list is. -/
def ofValue (v : Value) : Except Fault Literal := do
  let shape ← Tensor.literalShape v
  if Shape.maxRank < shape.length then throw .badValue
  return ⟨shape, Tensor.leaves v⟩

/-- The common type of the members, if they have one; without members it is the eight-byte
float. -/
def commonType? (l : Literal) : Except Fault (Option ElementType) := do
  match (← l.members.mapM Tensor.memberType?).mapM id with
  | none => return none
  | some [] => return some (.float .double)
  | some (t :: ts) => return some (ts.foldl ElementType.join t)

/-- The tensor of an element type with the members. -/
def toTensor (l : Literal) (dtype : Dtype) : Except Fault Tensor := do
  let cells ← l.members.mapM (Tensor.memberCell dtype.element)
  if h : cells.length = l.shape.size then return ⟨dtype, l.shape, cells, h⟩ else throw .badValue

/-- The members stretched to another shape. -/
def stretched (l : Literal) (shape : Shape) : Except Fault Literal :=
  if !Shape.stretchesTo l.shape shape then .error .badValue
  else
    let trimmed := l.shape.drop (l.shape.length - shape.length)
    .ok ⟨shape, (List.range shape.size).map fun i =>
      l.members.getD (Shape.sourceIndex trimmed.reverse shape.reverse i) .null⟩

end Literal

namespace Tensor

/-- The tensor of a nested list, of a given type or of the common type of its members. -/
def ofValue (dtype? : Option Dtype) (v : Value) : Except Fault Tensor := do
  let l ← Literal.ofValue v
  match dtype? with
  | some d => l.toTensor d
  | none =>
    match ← l.commonType? with
    | some t => l.toTensor (.native t)
    | none => throw .wrongType

/-- Applies an operation to a tensor and a loose value: a number, or a nested list of numbers,
which is a tensor of a type of its own.  Without elements there is nothing to be refused in a
missing value or a record. -/
def combineValue (op : Operation) (a : Tensor) (v : Value) : Except Fault Tensor :=
  match v with
  | .list _ => combineList
  | .tuple _ => combineList
  | .null => if a.size = 0 then .ok a else .error .wrongType
  | .record _ => if a.size = 0 then .ok a else .error .wrongType
  | v =>
    match v.scalar? with
    | some s => combineScalar op a s
    | none => .error .wrongType
where
  combineList : Except Fault Tensor := do
    let l ← Literal.ofValue v
    match ← l.commonType? with
    | some t => combine op a (← l.toTensor (.native t))
    | none =>
      let _ ← scalars l.members
      combine op a (← l.toTensor .float64)

/-- Applies an operation to the single number that a calculation gave and a loose value, which
must be a number. -/
def combineSingle (op : Operation) (a : Tensor) (v : Value) : Except Fault Tensor :=
  if a.shape = [] && v.isSequence then .error .wrongType else combineValue op a v

/-- An element as a number. -/
def cellNumber : (t : ElementType) → t.Cell → Value
  | .bool, x => .bool (ElementType.toInt .bool x != 0)
  | .signed w, x => .int (ElementType.toInt (.signed w) x)
  | .unsigned w, x => .int (ElementType.toInt (.unsigned w) x)
  | .float p, x =>
    .float (Float.ofBits (UInt64.ofNat (p.format.convert .binary64 x.toNat)))

/-- The number that is the only element of a tensor. -/
def number (t : Tensor) : Value := cellNumber t.dtype.element (t.cell 0)

end Tensor

end DataParallel

import DataParallel.Dtype.Promotion
import DataParallel.Fault
import DataParallel.Tensor.Basic

/-!
# Elementwise arithmetic

Tensors are combined element by element, in the common type of both and stretched to a common
shape.  A plain number takes the type of the tensor it meets, or makes the tensor's type the
default one of its own kind.  Results are in the usual byte order.  Writing into a tensor keeps
its type.
-/

namespace DataParallel

namespace Scalar

/-- The opposite number. -/
def neg : Scalar → Scalar
  | bool b => int (if b then -1 else 0)
  | int n => int (-n)
  | float x => float (-x)

/-- Whether a float is not a number. -/
def isNaN : Scalar → Bool
  | float x => x.isNaN
  | _ => false

/-- The type in which elements are combined with a plain number. -/
def meet (t : ElementType) : Scalar → ElementType
  | bool _ => t
  | int _ => t.withWhole
  | float _ => t.withFloat

/-- The smallest and the largest integer that a type without fractions holds. -/
def range : ElementType → Int × Int
  | .signed w => (-(2 ^ (8 * w.size - 1)), 2 ^ (8 * w.size - 1) - 1)
  | .unsigned w => (0, 2 ^ (8 * w.size) - 1)
  | _ => (0, 1)

/-- The integers that a type without fractions holds; truth values take all. -/
def holds (t : ElementType) (n : Int) : Bool :=
  t == .bool || ((range t).1 ≤ n && n ≤ (range t).2)

/-- The float nearest to a number. -/
def toFloat : Scalar → Except Fault Float
  | bool b => .ok (if b then 1 else 0)
  | int n => (Number.floatOfInt? n).elim (.error .tooLarge) .ok
  | float x => .ok x

/-- A plain number as an element; a whole number must fit. -/
def toCell (t : ElementType) (s : Scalar) : Except Fault t.Cell :=
  match s.whole?, t.isFloat with
  | some n, false => if holds t n then .ok (t.ofInt n) else .error .tooLarge
  | _, _ => do return t.ofFloatValue (Number.floatValue (← s.toFloat))

end Scalar

namespace Tensor

/-- The type of the result of an operation on elements of a type; truth values have no
difference. -/
def resultType (op : Operation) (t : ElementType) : Except Fault ElementType :=
  match op, t with
  | .divide, t => .ok t.quotient
  | .subtract, .bool => .error .wrongType
  | _, t => .ok t

/-- Applies an operation to two tensors. -/
def combine (op : Operation) (a b : Tensor) : Except Fault Tensor := do
  let t ← resultType op (a.dtype.element.join b.dtype.element)
  match Shape.broadcast? a.shape b.shape with
  | some shape =>
    return zipWith a b shape (.native t) fun x y =>
      t.apply op (ElementType.convert a.dtype.element t x)
        (ElementType.convert b.dtype.element t y)
  | none => throw .badValue

/-- Applies an operation to a tensor and a plain number. -/
def combineScalar (op : Operation) (a : Tensor) (s : Scalar) : Except Fault Tensor := do
  let t ← resultType op (s.meet a.dtype.element)
  let y ← s.toCell t
  return a.map (.native t) fun x => t.apply op (ElementType.convert a.dtype.element t x) y

/-- The squares of the elements. -/
def square (a : Tensor) : Tensor :=
  let t := a.dtype.element.square
  a.map (.native t) fun x =>
    let y := ElementType.convert a.dtype.element t x
    t.apply .multiply y y

/-- The square roots of the elements. -/
def sqrt (a : Tensor) : Tensor :=
  let t := a.dtype.element.root
  a.map (.native t) fun x => t.sqrt (ElementType.convert a.dtype.element t x)

/-- One bound of a clip as an element; a whole bound that no integer element passes is dropped. -/
def bound? (a t : ElementType) (vacuous : Int → Bool) (s : Scalar) :
    Except Fault (Option t.Cell) :=
  match s.whole? with
  | some n => if a.isInteger && vacuous n then .ok none else some <$> s.toCell t
  | none => some <$> s.toCell t

/-- Moves elements beyond the bounds `-limit` and `limit` to the bounds.  A limit that is not a
number leaves no numbers. -/
def clip (a : Tensor) (limit : Scalar) : Except Fault Tensor := do
  let t := limit.neg.meet a.dtype.element
  let low ← bound? a.dtype.element t (fun n => n ≤ (Scalar.range t).1) limit.neg
  let high ← bound? a.dtype.element t (fun n => (Scalar.range t).2 ≤ n) limit
  if limit.isNaN then return a.map (.native t) fun _ => t.ofFloatValue .nan
  return a.map (.native t) fun x =>
    let x := ElementType.convert a.dtype.element t x
    let x := low.elim x fun y => if t.lt x y then y else x
    high.elim x fun y => if t.lt y x then y else x

/-- Overwrites all elements with those of another tensor, stretched and converted.  A tensor
without dimensions has no range of elements to overwrite. -/
def assign (target value : Tensor) : Except Fault Tensor :=
  if target.shape = [] then .error .outOfRange
  else if !Shape.stretchesTo value.shape target.shape then .error .badValue
  else
    let trimmed := value.withShape (value.shape.drop (value.shape.length - target.shape.length))
    .ok (zipWith target trimmed target.shape target.dtype fun _ y =>
      ElementType.convert trimmed.dtype.element target.dtype.element y)

theorem dtype_assign {target value result : Tensor} (h : target.assign value = .ok result) :
    result.dtype = target.dtype := by
  simp only [assign] at h
  split at h
  · exact absurd h (by simp)
  · split at h
    · exact absurd h (by simp)
    · rw [← Except.ok.inj h]; rfl

theorem shape_assign {target value result : Tensor} (h : target.assign value = .ok result) :
    result.shape = target.shape := by
  simp only [assign] at h
  split at h
  · exact absurd h (by simp)
  · split at h
    · exact absurd h (by simp)
    · rw [← Except.ok.inj h]; rfl

end Tensor

end DataParallel

import DataParallel.Step
import DataParallel.Tensor.Arithmetic
import DataParallel.Tensor.Filled
import DataParallel.Tensor.Literal

/-!
# Initial weights

A weight begins as zeros or ones, or with drawn numbers that are scaled: evenly spread ones, or
bell-shaped ones with a given scale, or with a scale that depends on the numbers of inputs and
outputs.  The numbers that are drawn may be any: every drawn element takes the next place of the
sequences, whatever they are.
-/

namespace DataParallel

/-- The random numbers of a program: what is drawn at each place, if the number is to be evenly
spread or if it is to be bell-shaped, and how many numbers have been drawn. -/
structure Draws where
  even : Nat → Dtype.float64.Cell
  bell : Nat → Dtype.float64.Cell
  drawn : Nat
  deriving Inhabited

namespace Draws

/-- Draws the elements of a tensor from one of the sequences. -/
def draw (sequence : Draws → Nat → Dtype.float64.Cell) (dims : List Int) : Step Draws Tensor := do
  let dims ← Step.ofExcept (Shape.dimensions (dims.map Value.int))
  let shape ← Step.ofExcept (Shape.settled Dtype.float64.itemSize dims)
  modifyGet fun d =>
    (Tensor.build .float64 shape fun i => sequence d (d.drawn + i),
      { d with drawn := d.drawn + shape.size })

end Draws

/-- The ways to begin a weight. -/
inductive Strategy where
  | zeros | ones | random | normal | xavier | he
  deriving DecidableEq, Repr

namespace Strategy

/-- All strategies. -/
def all : List Strategy := [zeros, ones, random, normal, xavier, he]

/-- The name of a strategy. -/
def name : Strategy → String
  | zeros => "zeros"
  | ones => "ones"
  | random => "random"
  | normal => "normal"
  | xavier => "xavier"
  | he => "he"

/-- The strategy with a name. -/
def ofName? (name : String) : Option Strategy := all.find? fun s => s.name == name

/-- The strategy that a value names. -/
def ofValue? : Value → Option Strategy
  | .text name => ofName? name
  | _ => none

/-- The square root of two over a number of inputs and outputs. -/
def deviation (fan : Int) : Except Fault Float :=
  if fan = 0 then .error .zeroDivisor
  else do return Float.sqrt (2.0 / (← (Scalar.int fan).toFloat))

/-- A scaled draw of bell-shaped numbers, in the element type asked for. -/
def scaledDraw (dims : List Int) (factor : Scalar) (dtype : Value) : Step Draws Tensor := do
  let t ← Draws.draw Draws.bell dims
  let t ← Step.ofExcept (t.combineScalar .multiply factor)
  let d ← Step.ofExcept (Dtype.ofValue dtype)
  return t.cast d

/-- The initial contents of a weight.  The scale counts for `random` and `normal` alone, and a
`normal` weight must have a dimension. -/
def initial (strategy : Strategy) (dims : List Int) (scale dtype : Value) : Step Draws Tensor :=
  match strategy with
  | zeros => Step.ofExcept (Tensor.filled Tensor.zeros dims dtype)
  | ones => Step.ofExcept (Tensor.filled Tensor.ones dims dtype)
  | random => do
    let t ← Draws.draw Draws.even dims
    let t ← Step.ofExcept (t.combineScalar .subtract (.float 0.5))
    let t ← Step.ofExcept (t.combineScalar .multiply (.int 2))
    let t ← Step.ofExcept (t.combineSingle .multiply scale)
    let d ← Step.ofExcept (Dtype.ofValue dtype)
    return t.cast d
  | normal => do
    let t ← Draws.draw Draws.bell dims
    let t ← Step.ofExcept (t.combineSingle .multiply scale)
    if dims = [] then throw .missingPart
    let d ← Step.ofExcept (Dtype.ofValue dtype)
    return t.cast d
  | xavier => do
    let std ← Step.ofExcept (deviation (dims.headD 1 + (dims.drop 1).headD 1))
    scaledDraw dims (.float std) dtype
  | he => do
    let std ← Step.ofExcept (deviation (max (dims.headD 1) 1))
    scaledDraw dims (.float std) dtype

/-- The initial contents of a weight, all of it given by loose values. -/
def initialFor (shape strategy scale dtype : Value) : Step Draws Tensor := do
  let dims ← Step.ofExcept (shape.items >>= fun vs => vs.mapM Value.toInt)
  match ofValue? strategy with
  | some s => s.initial dims scale dtype
  | none => throw (.unknownStrategy strategy)

end Strategy

end DataParallel

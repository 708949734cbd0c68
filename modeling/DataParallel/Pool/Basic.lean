import DataParallel.Device.Basic
import DataParallel.Step
import DataParallel.Tensor.Contents

/-!
# The pool of arrays and managers

Arrays are shared: a layer, a store and a server hold the same array, and a write by one of them
is seen by all.  The pool keeps every array and every manager under a number that is never given
away again.  An open array refers to a buffer, which it may share with its reshaped views, and
has a shape of its own and possibly a gradient; a closed array has none of these.  A manager
lists the arrays that it will close, and the managers below it.
-/

namespace DataParallel

/-- The identity of an array. -/
structure ArrayId where
  index : Nat
  deriving DecidableEq, Repr, Inhabited

/-- The identity of a manager. -/
structure ManagerId where
  index : Nat
  deriving DecidableEq, Repr, Inhabited

/-- The identity of a buffer. -/
structure BufferId where
  index : Nat
  deriving DecidableEq, Repr, Inhabited

/-- How the elements of a buffer lie in memory. -/
inductive MemoryOrder where
  /-- The last dimension runs fastest. -/
  | rowMajor
  /-- The first dimension runs fastest. -/
  | columnMajor
  /-- The last dimension runs fastest and the first one backwards. -/
  | reversedRows
  deriving DecidableEq, Repr, Inhabited

namespace MemoryOrder

/-- The lengths of the longest runs of elements at a constant distance in memory, in row-major
order. -/
def runs (order : MemoryOrder) (shape : Shape) : List Nat :=
  match order, shape with
  | rowMajor, shape => [shape.size]
  | columnMajor, shape => shape.filter (· != 1)
  | reversedRows, [] => []
  | reversedRows, d :: rest =>
    if d = 1 then [Shape.size rest] else [d, Shape.size rest].filter (· != 1)

/-- Whether consecutive dimensions fill the runs one after the other; `filled` is what the
dimensions before have filled of the first run. -/
def fills : Nat → List Nat → List Nat → Bool
  | _, [], dims => dims.all (· == 1)
  | _, _ :: _, [] => false
  | filled, run :: runs, d :: dims =>
    if filled * d = run then fills 1 runs dims
    else filled * d < run && fills (filled * d) (run :: runs) dims

/-- Whether elements in this order can be viewed in another shape where they are. -/
def admits (order : MemoryOrder) (shape other : Shape) : Bool :=
  order == rowMajor || shape.size == 0 || fills 1 (order.runs shape) (other.filter (· != 1))

/-- The row-major position of the element that lies in a place in memory. -/
def position (order : MemoryOrder) (shape : Shape) (place : Nat) : Nat :=
  match order with
  | rowMajor => place
  | columnMajor => Shape.transposedIndex shape place 0
  | reversedRows => Shape.backwardsIndex shape place

/-- The row-major positions of the elements of a shape as they follow each other in memory. -/
def positions (order : MemoryOrder) (shape : Shape) : List Nat :=
  (List.range shape.size).map (order.position shape)

/-- The order of a new buffer made like one in this order. -/
def fresh : MemoryOrder → MemoryOrder
  | columnMajor => columnMajor
  | _ => rowMajor

end MemoryOrder

/-- Elements in memory. -/
structure Buffer where
  contents : Contents
  order : MemoryOrder
  deriving Inhabited

/-- What writing contents into an array of their shape leaves there, and whether all of them could
be written.  Numbers are converted to the element type of the array; for other items it is left open
what they become, but the array keeps its type and its shape. -/
structure Conversion where
  write : MemoryOrder → Contents → Contents → Contents × Except Fault Unit
  write_numbers : ∀ order (old t : Tensor),
    write order (.tensor old) (.tensor t) = (.tensor (t.cast old.dtype), .ok ())
  itemType_write : ∀ order old values, (write order old values).1.itemType = old.itemType
  shape_write : ∀ order old values, values.shape = old.shape →
    (write order old values).1.shape = old.shape

/-- The conversion that refuses everything but numbers. -/
instance : Inhabited Conversion where
  default :=
    { write := fun _ old values => match old, values with
        | .tensor u, .tensor t => (.tensor (t.cast u.dtype), .ok ())
        | _, _ => (old, .error .notNumbers)
      write_numbers := fun _ _ _ => rfl
      itemType_write := fun _ old values => by
        rcases old with u | c
        · rcases values with t | d
          · rfl
          · rfl
        · rfl
      shape_write := fun _ old values h => by
        rcases old with u | c
        · rcases values with t | d
          · exact h
          · rfl
        · rfl }

/-- What an open array has. -/
structure Holding where
  buffer : BufferId
  shape : Shape
  gradient : Option ArrayId
  deriving DecidableEq

/-- An array; a closed one holds nothing. -/
structure ArrayState where
  device : Device
  manager : Option ManagerId
  holding : Option Holding
  deriving DecidableEq, Inhabited

/-- A manager, with its arrays and the managers below it in the order in which they came. -/
structure ManagerState where
  device : Device
  parent : Option ManagerId
  resources : List ArrayId
  children : List ManagerId
  isOpen : Bool
  deriving DecidableEq, Inhabited

/-- All arrays, managers and buffers. -/
structure Pool where
  buffers : Array Buffer
  arrays : Array ArrayState
  managers : Array ManagerState
  deriving Inhabited

namespace Pool

/-- The pool without arrays and managers. -/
def empty : Pool := ⟨#[], #[], #[]⟩

/-- A buffer by its identity. -/
def buffer (p : Pool) (b : BufferId) : Buffer := p.buffers.getD b.index default

/-- An array by its identity. -/
def array (p : Pool) (a : ArrayId) : ArrayState := p.arrays.getD a.index default

/-- A manager by its identity. -/
def manager (p : Pool) (m : ManagerId) : ManagerState := p.managers.getD m.index default

/-- Changes a buffer. -/
def updateBuffer (p : Pool) (b : BufferId) (f : Buffer → Buffer) : Pool :=
  { p with buffers := p.buffers.modify b.index f }

/-- Changes an array. -/
def updateArray (p : Pool) (a : ArrayId) (f : ArrayState → ArrayState) : Pool :=
  { p with arrays := p.arrays.modify a.index f }

/-- Changes a manager. -/
def updateManager (p : Pool) (m : ManagerId) (f : ManagerState → ManagerState) : Pool :=
  { p with managers := p.managers.modify m.index f }

/-- Adds a buffer. -/
def addBuffer (p : Pool) (b : Buffer) : BufferId × Pool :=
  (⟨p.buffers.size⟩, { p with buffers := p.buffers.push b })

/-- Adds an array. -/
def addArray (p : Pool) (s : ArrayState) : ArrayId × Pool :=
  (⟨p.arrays.size⟩, { p with arrays := p.arrays.push s })

/-- Adds a manager. -/
def addManager (p : Pool) (s : ManagerState) : ManagerId × Pool :=
  (⟨p.managers.size⟩, { p with managers := p.managers.push s })

/-- Adds an array with a buffer of its own. -/
def addOwning (p : Pool) (device : Device) (b : Buffer) (shape : Shape) : ArrayId × Pool :=
  let (buffer, p) := p.addBuffer b
  p.addArray ⟨device, none, some ⟨buffer, shape, none⟩⟩

/-- Whether an array is closed. -/
def isClosed (p : Pool) (a : ArrayId) : Bool := (p.array a).holding.isNone

/-- The gradient of an array. -/
def gradient? (p : Pool) (a : ArrayId) : Option ArrayId :=
  (p.array a).holding.bind Holding.gradient

/-- What an open array holds. -/
def items? (p : Pool) (a : ArrayId) : Option Contents :=
  (p.array a).holding.map fun h => (p.buffer h.buffer).contents.withShape h.shape

/-- The contents of an open array of numbers. -/
def contents? (p : Pool) (a : ArrayId) : Option Tensor := (p.items? a).bind Contents.tensor?

end Pool

end DataParallel

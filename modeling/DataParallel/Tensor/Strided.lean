import DataParallel.Dtype.ItemType
import DataParallel.Pool.Basic

/-!
# Arrays in memory

The items of an array lie in memory at a constant distance along each of its axes.  The distances
may be negative, and any axis may run fastest, so views with their dimensions in reverse or their
rows backwards are arrays as well.  What an array holds are the bytes of its items in row-major
order, wherever they lie.
-/

namespace DataParallel

/-- One dimension of an array in memory. -/
structure Axis where
  length : Nat
  /-- The distance from one index to the next. -/
  stride : Int

namespace Axis

/-- The places that the indices lead to, the last axis running fastest. -/
def places : List Axis → Int → List Int
  | [], start => [start]
  | a :: axes, start =>
    (List.range a.length).flatMap fun (i : Nat) => places axes (start + i * a.stride)

/-- The axes of a shape whose last dimension runs fastest, in items. -/
def rowMajor : Shape → List Axis
  | [] => []
  | d :: rest => ⟨d, Shape.size rest⟩ :: rowMajor rest

/-- The axes of a shape whose first dimension runs fastest; `unit` is the distance along it. -/
def columnMajor (unit : Nat) : Shape → List Axis
  | [] => []
  | d :: rest => ⟨d, unit⟩ :: columnMajor (unit * d) rest

/-- An axis with its distance in bytes. -/
def inBytes (itemSize : Nat) (a : Axis) : Axis := ⟨a.length, itemSize * a.stride⟩

end Axis

namespace MemoryOrder

/-- The axes of a shape in an order, in items. -/
def axes : MemoryOrder → Shape → List Axis
  | rowMajor, shape => Axis.rowMajor shape
  | columnMajor, shape => Axis.columnMajor 1 shape
  | reversedRows, [] => []
  | reversedRows, d :: rest => ⟨d, -(Shape.size rest : Int)⟩ :: Axis.rowMajor rest

/-- The place of the first element. -/
def origin : MemoryOrder → Shape → Nat
  | reversedRows, d :: rest => (d - 1) * Shape.size rest
  | _, _ => 0

end MemoryOrder

/-- An array in memory. -/
structure Strided where
  item : ItemType
  axes : List Axis
  /-- The address of the first item. -/
  offset : Int
  memory : Int → UInt8

namespace Strided

/-- The dimensions. -/
def shape (a : Strided) : Shape := a.axes.map Axis.length

/-- The bytes of the item at an address. -/
def itemAt (a : Strided) (address : Int) : List UInt8 :=
  (List.range a.item.size).map fun (k : Nat) => a.memory (address + k)

/-- The bytes of the items in row-major order. -/
def bytes (a : Strided) : List UInt8 := (Axis.places a.axes a.offset).flatMap a.itemAt

/-- The array whose items lie in a block of memory along axes that are given in items. -/
def inBlock (item : ItemType) (axes : List Axis) (origin : Nat) (block : List UInt8) : Strided :=
  let cells := block.toArray
  { item := item
    axes := axes.map (Axis.inBytes item.size)
    offset := (item.size * origin : Nat)
    memory := fun address => cells.getD address.toNat 0 }

/-- The array of numbers that lie in an order. -/
def ofTensor (t : Tensor) (order : MemoryOrder) : Strided :=
  inBlock (.number t.dtype) (order.axes t.shape) (order.origin t.shape)
    ((order.positions t.shape).flatMap fun i => t.dtype.toBytes (t.cell i))

end Strided

end DataParallel

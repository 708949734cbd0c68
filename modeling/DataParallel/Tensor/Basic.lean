import DataParallel.Dtype.Cell
import DataParallel.Tensor.Shape

/-!
# Tensors

A tensor is an array by value: an element type, a shape and the elements in row-major order.
Its bytes are the elements one after the other; a tensor is read back from its element type, its
shape and its bytes.
-/

namespace DataParallel

/-- An array by value. -/
structure Tensor where
  dtype : Dtype
  shape : Shape
  cells : List dtype.Cell
  length_cells : cells.length = Shape.size shape
  deriving DecidableEq

namespace Tensor

/-- The tensor whose elements are given by position. -/
def build (dtype : Dtype) (shape : Shape) (f : Nat → dtype.Cell) : Tensor where
  dtype := dtype
  shape := shape
  cells := (List.range (Shape.size shape)).map f
  length_cells := by simp

/-- A tensor of equal elements. -/
def fill (dtype : Dtype) (shape : Shape) (x : dtype.Cell) : Tensor where
  dtype := dtype
  shape := shape
  cells := List.replicate (Shape.size shape) x
  length_cells := by simp

/-- A tensor of zeros. -/
def zeros (dtype : Dtype) (shape : Shape) : Tensor := fill dtype shape dtype.element.zero

/-- A tensor of ones. -/
def ones (dtype : Dtype) (shape : Shape) : Tensor := fill dtype shape dtype.element.one

instance : Inhabited Tensor := ⟨zeros .float64 [0]⟩

/-- The number of elements. -/
def size (t : Tensor) : Nat := t.shape.size

/-- An element by position; zero beyond the end. -/
def cell (t : Tensor) (i : Nat) : t.dtype.Cell := t.cells.getD i t.dtype.element.zero

/-- Applies a function to every element. -/
def map (t : Tensor) (dtype : Dtype) (f : t.dtype.Cell → dtype.Cell) : Tensor where
  dtype := dtype
  shape := t.shape
  cells := t.cells.map f
  length_cells := by rw [List.length_map, t.length_cells]

/-- The same elements converted to another type. -/
def cast (t : Tensor) (dtype : Dtype) : Tensor :=
  t.map dtype (ElementType.convert t.dtype.element dtype.element)

/-- The same elements in another shape, which must have their number; otherwise the tensor as it
is. -/
def withShape (t : Tensor) (shape : Shape) : Tensor :=
  if h : t.cells.length = shape.size then ⟨t.dtype, shape, t.cells, h⟩ else t

/-- The elements at the given positions. -/
def pick (t : Tensor) (shape : Shape) (index : Nat → Nat) : Tensor :=
  build t.dtype shape fun i => t.cell (index i)

/-- The elements stretched to another shape. -/
def stretched (t : Tensor) (shape : Shape) : List t.dtype.Cell :=
  if t.shape = shape then t.cells
  else (List.range shape.size).map fun i =>
    t.cell (Shape.sourceIndex t.shape.reverse shape.reverse i)

theorem length_stretched (t : Tensor) (shape : Shape) :
    (t.stretched shape).length = shape.size := by
  simp only [stretched]
  split
  · next h => rw [t.length_cells, h]
  · simp

@[simp] theorem stretched_shape (t : Tensor) : t.stretched t.shape = t.cells := by
  simp [stretched]

/-- Combines the elements of two tensors, stretched to one shape. -/
def zipWith (t u : Tensor) (shape : Shape) (dtype : Dtype)
    (f : t.dtype.Cell → u.dtype.Cell → dtype.Cell) : Tensor where
  dtype := dtype
  shape := shape
  cells := List.zipWith f (t.stretched shape) (u.stretched shape)
  length_cells := by simp [length_stretched]

/-- The elements one after the other, each in the byte order of the type. -/
def bytes (t : Tensor) : List UInt8 := t.cells.flatMap t.dtype.toBytes

/-- The tensor with the given bytes; their number must be right. -/
def ofBytes? (dtype : Dtype) (shape : Shape) (bs : List UInt8) : Option Tensor :=
  if bs.length = shape.size * dtype.itemSize then
    some {
      dtype := dtype
      shape := shape
      cells := (Bytes.pieces dtype.itemSize shape.size bs).map dtype.ofBytes
      length_cells := by simp }
  else none

@[simp] theorem dtype_map (t : Tensor) (d : Dtype) (f : t.dtype.Cell → d.Cell) :
    (t.map d f).dtype = d := rfl

@[simp] theorem shape_map (t : Tensor) (d : Dtype) (f : t.dtype.Cell → d.Cell) :
    (t.map d f).shape = t.shape := rfl

@[simp] theorem dtype_cast (t : Tensor) (d : Dtype) : (t.cast d).dtype = d := rfl

@[simp] theorem shape_cast (t : Tensor) (d : Dtype) : (t.cast d).shape = t.shape := rfl

@[simp] theorem cast_self (t : Tensor) : t.cast t.dtype = t := by
  rcases t with ⟨d, s, cs, h⟩
  simp only [cast, map, Tensor.mk.injEq, true_and, heq_eq_eq]
  exact List.map_id'' (ElementType.convert_self d.element) cs

@[simp] theorem withShape_shape (t : Tensor) : t.withShape t.shape = t := by
  simp [withShape, t.length_cells]

@[simp] theorem dtype_withShape (t : Tensor) (s : Shape) : (t.withShape s).dtype = t.dtype := by
  simp only [withShape]
  split <;> rfl

theorem shape_withShape {t : Tensor} {s : Shape} (h : t.size = s.size) :
    (t.withShape s).shape = s := by
  have hc : t.cells.length = s.size := t.length_cells.trans h
  simp [withShape, hc]

theorem length_bytes (t : Tensor) : t.bytes.length = t.size * t.dtype.itemSize := by
  rw [bytes, Bytes.length_flatMap_of_forall t.dtype.length_toBytes, t.length_cells, size]

theorem bytes_withShape (t : Tensor) (s : Shape) : (t.withShape s).bytes = t.bytes := by
  simp only [withShape]
  split <;> rfl

theorem bytes_of_ofBytes? {d : Dtype} {s : Shape} {bs : List UInt8} {t : Tensor}
    (h : ofBytes? d s bs = some t) : t.dtype = d ∧ t.shape = s ∧ t.bytes = bs := by
  simp only [ofBytes?] at h
  split at h
  · next hlength =>
    obtain rfl := Option.some.inj h
    have hpiece (piece : List UInt8) (hpiece : piece ∈ Bytes.pieces d.itemSize s.size bs) :
        d.toBytes (d.ofBytes piece) = piece :=
      d.toBytes_ofBytes piece (Bytes.length_of_mem_pieces hlength hpiece)
    refine ⟨rfl, rfl, ?_⟩
    show ((Bytes.pieces d.itemSize s.size bs).map d.ofBytes).flatMap d.toBytes = bs
    rw [List.flatMap_map, List.flatMap_def, List.map_congr_left hpiece, List.map_id',
      Bytes.flatten_pieces _ _ _ hlength]
  · cases h

end Tensor

end DataParallel

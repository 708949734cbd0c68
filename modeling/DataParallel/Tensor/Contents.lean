import DataParallel.Dtype.ItemType
import DataParallel.Tensor.Select

/-!
# Contents of arrays

Most arrays hold numbers, and their contents are a tensor.  An array that came from a record can
hold items of any other type, which are carried as bytes: they can be copied, selected and given
another shape, but nothing is calculated with them.
-/

namespace DataParallel

/-- Items that are only carried: their written type, the size of one, their shape and their
bytes. -/
@[ext] structure CarriedItems where
  code : String
  itemSize : Nat
  shape : Shape
  bytes : List UInt8
  length_bytes : bytes.length = shape.size * itemSize
  deriving DecidableEq

namespace CarriedItems

/-- The type of the items. -/
def itemType (c : CarriedItems) : ItemType := .stored c.code c.itemSize true

/-- The same items in another shape, which must have their number; otherwise as they are. -/
def withShape (c : CarriedItems) (shape : Shape) : CarriedItems :=
  if h : c.shape.size = shape.size then
    { c with shape := shape, length_bytes := h ▸ c.length_bytes }
  else c

/-- As many items whose bytes are all zero. -/
def zeros (c : CarriedItems) : CarriedItems :=
  { c with
    bytes := c.bytes.map fun _ => 0
    length_bytes := (List.length_map _).trans c.length_bytes }

/-- The bytes of an item by position; there are only zeros behind the last one. -/
def item (c : CarriedItems) (i : Nat) : List UInt8 :=
  let bytes := (c.bytes.drop (i * c.itemSize)).take c.itemSize
  if bytes.length = c.itemSize then bytes else List.replicate c.itemSize 0

theorem length_item (c : CarriedItems) (i : Nat) : (c.item i).length = c.itemSize := by
  rw [item]
  split
  · assumption
  · exact List.length_replicate

/-- The items at the given positions. -/
def pick (c : CarriedItems) (shape : Shape) (index : Nat → Nat) : CarriedItems where
  code := c.code
  itemSize := c.itemSize
  shape := shape
  bytes := (List.range shape.size).flatMap fun i => c.item (index i)
  length_bytes := by
    rw [Bytes.length_flatMap_of_forall fun i => c.length_item (index i), List.length_range]

/-- The name under which messages show the type of complex numbers, of long floats and of points
and spans of time; the other types are shown as they are written. -/
def typeText (c : CarriedItems) : String :=
  match c.code.toList with
  | '<' :: 'M' :: '8' :: unit => "datetime64" ++ String.ofList unit
  | '<' :: 'm' :: '8' :: unit => "timedelta64" ++ String.ofList unit
  | _ =>
    ([("<c8", "complex64"), ("<c16", "complex128"), ("<c32", "complex256"),
      ("<f16", "float128")].lookup c.code).getD c.code

end CarriedItems

/-- What an array holds. -/
inductive Contents where
  | tensor (t : Tensor)
  | carried (c : CarriedItems)
  deriving DecidableEq

namespace Contents

instance : Coe Tensor Contents := ⟨tensor⟩

instance : Inhabited Contents := ⟨tensor default⟩

/-- The numbers, if the array holds numbers. -/
def tensor? : Contents → Option Tensor
  | tensor t => some t
  | carried _ => none

/-- The type of the items. -/
def itemType : Contents → ItemType
  | tensor t => .number t.dtype
  | carried c => c.itemType

/-- The shape of the array. -/
def shape : Contents → Shape
  | tensor t => t.shape
  | carried c => c.shape

/-- The number of items. -/
def size (c : Contents) : Nat := c.shape.size

/-- The same items in another shape, which must have their number; otherwise as they are. -/
def withShape (c : Contents) (s : Shape) : Contents :=
  match c with
  | tensor t => t.withShape s
  | carried c => carried (c.withShape s)

/-- The numbers of a tensor in place of others, in their element type and their shape; items of
another type stay. -/
def withNumbers (c : Contents) (t : Tensor) : Contents :=
  match c with
  | tensor old => tensor ((t.cast old.dtype).withShape old.shape)
  | carried c => carried c

/-- As many zeros of the same type. -/
def zeros : Contents → Contents
  | tensor t => Tensor.zeros t.dtype t.shape
  | carried c => carried c.zeros

/-- The items at the given positions. -/
def pick (c : Contents) (s : Shape) (index : Nat → Nat) : Contents :=
  match c with
  | tensor t => t.pick s index
  | carried c => carried (c.pick s index)

/-- The rows at the given positions, in their shape. -/
def take (c : Contents) (indices : Tensor) : Except Fault Contents := do
  let (s, index) ← Tensor.selected c.shape indices
  return c.pick s index

/-- The same items in the shape that the given dimensions settle. -/
def reshape (c : Contents) (dims : List Int) : Except Fault Contents := do
  return c.withShape (← Tensor.reshaped c.itemType.size c.size dims)

/-- The type of the items as messages show it. -/
def typeText : Contents → String
  | tensor t => t.dtype.text
  | carried c => c.typeText

/-! ## Numbers -/

@[simp] theorem tensor?_tensor (t : Tensor) : tensor? (tensor t) = some t := rfl

@[simp] theorem itemType_tensor (t : Tensor) : itemType (tensor t) = .number t.dtype := rfl

@[simp] theorem shape_tensor (t : Tensor) : shape (tensor t) = t.shape := rfl

@[simp] theorem withShape_tensor (t : Tensor) (s : Shape) :
    withShape (tensor t) s = tensor (t.withShape s) := rfl

theorem tensor?_eq_some {c : Contents} {t : Tensor} : c.tensor? = some t ↔ c = tensor t := by
  cases c with
  | tensor u => exact ⟨fun h => congrArg tensor (Option.some.inj h), fun h => by cases h; rfl⟩
  | carried c => exact ⟨nofun, nofun⟩

end Contents

end DataParallel

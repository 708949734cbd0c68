import DataParallel.Number.Binary

/-!
# Element types

The elements of an array are truth values, integers of four widths with or without sign, or
floats of three sizes, in either byte order.  A `Cell` is the bit pattern of one element; it does
not depend on the byte order, which matters only where elements become bytes.
-/

namespace DataParallel

/-- The width of an integer. -/
inductive Width where
  | one | two | four | eight
  deriving DecidableEq, Repr

/-- The width in bytes. -/
def Width.size : Width → Nat
  | one => 1
  | two => 2
  | four => 4
  | eight => 8

/-- The size of a float. -/
inductive Precision where
  | half | single | double
  deriving DecidableEq, Repr

namespace Precision

/-- The size in bytes. -/
def size : Precision → Nat
  | half => 2
  | single => 4
  | double => 8

/-- The format of the bit patterns. -/
def format : Precision → Number.BinaryFormat
  | half => .binary16
  | single => .binary32
  | double => .binary64

end Precision

/-- What the elements of an array are. -/
inductive ElementType where
  | bool
  | signed (w : Width)
  | unsigned (w : Width)
  | float (p : Precision)
  deriving DecidableEq, Repr

namespace ElementType

/-- The size of an element in bytes. -/
def size : ElementType → Nat
  | bool => 1
  | signed w => w.size
  | unsigned w => w.size
  | float p => p.size

/-- The bit pattern of one element. -/
abbrev Cell (t : ElementType) : Type := BitVec (8 * t.size)

theorem size_pos (t : ElementType) : 0 < t.size := by
  rcases t with _ | (_ | _ | _ | _) | (_ | _ | _ | _) | (_ | _ | _) <;> decide

/-- Whether the elements are floats. -/
def isFloat : ElementType → Bool
  | float _ => true
  | _ => false

/-- Whether the elements are integers. -/
def isInteger : ElementType → Bool
  | signed _ => true
  | unsigned _ => true
  | _ => false

end ElementType

/-- An element type with the byte order of its elements. -/
structure Dtype where
  element : ElementType
  /-- The first byte is the most significant one. -/
  bigEndian : Bool
  deriving DecidableEq, Repr

namespace Dtype

/-- The element type in the usual byte order. -/
def native (t : ElementType) : Dtype := ⟨t, false⟩

/-- The element type in a given byte order; one byte has no order. -/
def ordered (t : ElementType) (bigEndian : Bool) : Dtype :=
  ⟨t, bigEndian && t.size != 1⟩

/-- The size of an element in bytes. -/
def itemSize (d : Dtype) : Nat := d.element.size

/-- The bit pattern of one element. -/
abbrev Cell (d : Dtype) : Type := d.element.Cell

/-- Eight-byte floats. -/
def float64 : Dtype := native (.float .double)

/-- Four-byte floats. -/
def float32 : Dtype := native (.float .single)

/-- Eight-byte integers. -/
def int64 : Dtype := native (.signed .eight)

end Dtype

end DataParallel

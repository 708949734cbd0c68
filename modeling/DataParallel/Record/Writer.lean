import DataParallel.MessagePack.Writer
import DataParallel.Tensor.Contents
import DataParallel.Tensor.Strided

/-!
# Writing array records

A record is a marker, the length of a header in four bytes, the header, the length of the payload
in eight bytes, and the payload.  The header is a packed message with the name, the item type and
the shape; the payload is the bytes of the items in row-major order, however the array lies in
memory.  An array without dimensions is written as one with a single item.
-/

namespace DataParallel

namespace Record

/-- The first bytes of every record. -/
def marker : List UInt8 := [0x50, 0x53, 0x4E, 0x44]

/-- What a record is about: the items, their dimensions and their bytes in row-major order. -/
structure Body where
  item : ItemType
  shape : Shape
  bytes : List UInt8

namespace Body

/-- The body of an array by value. -/
def ofTensor (t : Tensor) : Body := ⟨.number t.dtype, t.shape, t.bytes⟩

/-- The body of an array in memory. -/
def ofStrided (a : Strided) : Body := ⟨a.item, a.shape, a.bytes⟩

/-- The form that is written, with at least one dimension. -/
def written (b : Body) : Body := if b.shape = [] then { b with shape := [1] } else b

/-- The header of a record. -/
def header (name : Value) (b : Body) : Value :=
  .record [(.text "name", name), (.text "dtype", .text b.item.code),
    (.text "shape", .list (b.shape.map fun (d : Nat) => .int d))]

end Body

/-- The length of a piece in front of it, in `count` bytes. -/
def lengthOf (count : Nat) (piece : List UInt8) : Except Fault (List UInt8) :=
  if piece.length < 256 ^ count then .ok (Bytes.littleEndian count piece.length)
  else .error .tooLarge

/-- The record of a body. -/
def writeBody (name : Value) (b : Body) : Except Fault (List UInt8) := do
  let b := b.written
  let head ← MessagePack.write (b.header name)
  return marker ++ (← lengthOf 4 head) ++ head ++ (← lengthOf 8 b.bytes) ++ b.bytes

/-- The record of an array of numbers by value. -/
def write (name : Value) (t : Tensor) : Except Fault (List UInt8) := writeBody name (.ofTensor t)

/-- The record of an array in memory. -/
def writeArray (name : Value) (a : Strided) : Except Fault (List UInt8) :=
  writeBody name (.ofStrided a)

end Record

/-- The body of a record with these contents. -/
def Contents.body : Contents → Record.Body
  | tensor t => .ofTensor t
  | carried c => ⟨c.itemType, c.shape, c.bytes⟩

theorem Contents.length_body (c : Contents) :
    c.body.bytes.length = c.body.shape.size * c.body.item.size := by
  cases c with
  | tensor t => exact t.length_bytes
  | carried c => exact c.length_bytes

end DataParallel

import DataParallel.Bytes
import DataParallel.Dtype.Basic

/-!
# Cells

Reading, converting and calculating with the bit patterns of single elements.  Integers wrap
around, floats round to nearest after every operation, and two-byte floats are calculated with in
four bytes.  A conversion to an integer drops the fraction.
-/

namespace DataParallel

/-- The four operations of elementwise arithmetic. -/
inductive Operation where
  | add | subtract | multiply | divide
  deriving DecidableEq, Repr

namespace Operation

/-- The operation on four-byte floats. -/
def single : Operation → Float32 → Float32 → Float32
  | add, x, y => x + y
  | subtract, x, y => x - y
  | multiply, x, y => x * y
  | divide, x, y => x / y

/-- The operation on eight-byte floats. -/
def double : Operation → Float → Float → Float
  | add, x, y => x + y
  | subtract, x, y => x - y
  | multiply, x, y => x * y
  | divide, x, y => x / y

/-- The operation on integers that wrap around; integers are not divided. -/
def wrapping {n : Nat} : Operation → BitVec n → BitVec n → BitVec n
  | add, x, y => x + y
  | subtract, x, y => x - y
  | multiply, x, y => x * y
  | divide, x, _ => x

/-- The operation on truth values: a sum is a disjunction, a product a conjunction. -/
def logical {n : Nat} : Operation → BitVec n → BitVec n → BitVec n
  | add, x, y => x ||| y
  | multiply, x, y => x &&& y
  | _, x, _ => x

end Operation

namespace Precision

open Number

/-- Applies a function to a float, in the calculating format of its size. -/
def map (single : Float32 → Float32) (double : Float → Float) :
    (p : Precision) → (ElementType.float p).Cell → (ElementType.float p).Cell
  | half, x =>
    let wide := Float32.ofBits (UInt32.ofNat (BinaryFormat.binary16.convert .binary32 x.toNat))
    BitVec.ofNat 16 (BinaryFormat.binary32.convert .binary16 (single wide).toBits.toNat)
  | .single, x => (single (Float32.ofBits (UInt32.ofBitVec x))).toBits.toBitVec
  | .double, x => (double (Float.ofBits (UInt64.ofBitVec x))).toBits.toBitVec

/-- Applies a function to two floats, in the calculating format of their size. -/
def map₂ (single : Float32 → Float32 → Float32) (double : Float → Float → Float) :
    (p : Precision) → (ElementType.float p).Cell → (ElementType.float p).Cell →
      (ElementType.float p).Cell
  | half, x, y =>
    let widen (z : BitVec 16) :=
      Float32.ofBits (UInt32.ofNat (BinaryFormat.binary16.convert .binary32 z.toNat))
    let result := single (widen x) (widen y)
    BitVec.ofNat 16 (BinaryFormat.binary32.convert .binary16 result.toBits.toNat)
  | .single, x, y =>
    let result := single (Float32.ofBits (UInt32.ofBitVec x)) (Float32.ofBits (UInt32.ofBitVec y))
    result.toBits.toBitVec
  | .double, x, y =>
    (double (Float.ofBits (UInt64.ofBitVec x)) (Float.ofBits (UInt64.ofBitVec y))).toBits.toBitVec

/-- Compares two floats. -/
def lt : (p : Precision) → (ElementType.float p).Cell → (ElementType.float p).Cell → Bool
  | half, x, y =>
    let widen (z : BitVec 16) :=
      Float32.ofBits (UInt32.ofNat (BinaryFormat.binary16.convert .binary32 z.toNat))
    widen x < widen y
  | .single, x, y =>
    Float32.ofBits (UInt32.ofBitVec x) < Float32.ofBits (UInt32.ofBitVec y)
  | .double, x, y =>
    Float.ofBits (UInt64.ofBitVec x) < Float.ofBits (UInt64.ofBitVec y)

end Precision

namespace ElementType

open Number

/-- The value of a float. -/
def floatValue (p : Precision) (x : (float p).Cell) : BinaryValue := p.format.decode x.toNat

/-- The integer that an element stands for, if it is no float. -/
def toInt : (t : ElementType) → t.Cell → Int
  | bool, x => if x.toNat = 0 then 0 else 1
  | signed _, x => x.toInt
  | unsigned _, x => x.toNat
  | float _, _ => 0

/-- The element for an integer, which wraps around or is rounded. -/
def ofInt : (t : ElementType) → Int → t.Cell
  | bool, n => if n = 0 then BitVec.ofNat 8 0 else BitVec.ofNat 8 1
  | signed w, n => BitVec.ofInt (8 * w.size) n
  | unsigned w, n => BitVec.ofInt (8 * w.size) n
  | float p, n => BitVec.ofNat (8 * p.size) (p.format.ofInt n)

/-- The integer of a float that is to become an integer element: its integer part, or the
smallest eight-byte integer if there is none within eight bytes. -/
def truncated (v : BinaryValue) : Int :=
  match v.truncate? with
  | some n => if -(2 ^ 63 : Int) ≤ n ∧ n < 2 ^ 63 then n else -(2 ^ 63)
  | none => -(2 ^ 63)

/-- The element nearest to a float. -/
def ofFloatValue : (t : ElementType) → BinaryValue → t.Cell
  | bool, .finite _ 0 _ => BitVec.ofNat 8 0
  | bool, _ => BitVec.ofNat 8 1
  | signed w, v => BitVec.ofInt (8 * w.size) (truncated v)
  | unsigned w, v => BitVec.ofInt (8 * w.size) (truncated v)
  | float p, v => BitVec.ofNat (8 * p.size) (p.format.encode v)

/-- Converts an element to another type. -/
def convert (source target : ElementType) (x : source.Cell) : target.Cell :=
  if h : source = target then h ▸ x
  else
    match source, x with
    | float p, x => target.ofFloatValue (floatValue p x)
    | bool, x => target.ofInt (toInt bool x)
    | signed w, x => target.ofInt (toInt (signed w) x)
    | unsigned w, x => target.ofInt (toInt (unsigned w) x)

@[simp] theorem convert_self (t : ElementType) (x : t.Cell) : convert t t x = x := by
  simp [convert]

/-- Applies an operation to two elements of one type. -/
def apply (op : Operation) : (t : ElementType) → t.Cell → t.Cell → t.Cell
  | bool, x, y => op.logical x y
  | signed _, x, y => op.wrapping x y
  | unsigned _, x, y => op.wrapping x y
  | float p, x, y => p.map₂ op.single op.double x y

/-- Whether one element is below another of its type. -/
def lt : (t : ElementType) → t.Cell → t.Cell → Bool
  | bool, x, y => x.toNat < y.toNat
  | signed _, x, y => x.toInt < y.toInt
  | unsigned _, x, y => x.toNat < y.toNat
  | float p, x, y => p.lt x y

/-- The square root of an element; integers have none. -/
def sqrt : (t : ElementType) → t.Cell → t.Cell
  | float p, x => p.map Float32.sqrt Float.sqrt x
  | _, x => x

/-- The element zero. -/
def zero (t : ElementType) : t.Cell := t.ofInt 0

/-- The element one. -/
def one (t : ElementType) : t.Cell := t.ofInt 1

end ElementType

namespace Dtype

/-- The bytes of an element in the byte order of its type. -/
def toBytes (d : Dtype) (x : d.Cell) : List UInt8 :=
  let bs := Bytes.littleEndian d.itemSize x.toNat
  if d.bigEndian then bs.reverse else bs

/-- The element with the given bytes. -/
def ofBytes (d : Dtype) (bs : List UInt8) : d.Cell :=
  BitVec.ofNat (8 * d.element.size) (Bytes.toNat (if d.bigEndian then bs.reverse else bs))

@[simp] theorem length_toBytes (d : Dtype) (x : d.Cell) :
    (d.toBytes x).length = d.itemSize := by
  simp only [toBytes]
  split <;> simp

theorem ofBytes_toBytes (d : Dtype) (x : d.Cell) : d.ofBytes (d.toBytes x) = x := by
  have h : Bytes.toNat (Bytes.littleEndian d.itemSize x.toNat) = x.toNat := by
    rw [Bytes.toNat_littleEndian, show 256 = 2 ^ 8 from rfl, ← Nat.pow_mul]
    exact Nat.mod_eq_of_lt x.isLt
  cases hb : d.bigEndian <;> simp [ofBytes, toBytes, hb, h]

theorem toBytes_ofBytes (d : Dtype) (bs : List UInt8) (h : bs.length = d.itemSize) :
    d.toBytes (d.ofBytes bs) = bs := by
  have key (cs : List UInt8) (hc : cs.length = d.itemSize) :
      Bytes.littleEndian d.itemSize (BitVec.ofNat (8 * d.element.size) (Bytes.toNat cs)).toNat
        = cs := by
    have hlt : Bytes.toNat cs < 2 ^ (8 * d.element.size) := by
      have := Bytes.toNat_lt cs
      rwa [hc, show 256 = 2 ^ 8 from rfl, ← Nat.pow_mul] at this
    rw [BitVec.toNat_ofNat, Nat.mod_eq_of_lt hlt, ← hc]
    exact Bytes.littleEndian_toNat cs
  cases hb : d.bigEndian
  · simpa [ofBytes, toBytes, hb] using key bs h
  · have := key bs.reverse (by simpa using h)
    simp [ofBytes, toBytes, hb, this, -BitVec.toNat_ofNat]

end Dtype

end DataParallel

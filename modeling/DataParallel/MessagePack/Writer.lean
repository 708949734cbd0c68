import DataParallel.Bytes
import DataParallel.Fault

/-!
# Writing packed messages

The shortest form of every value: small integers and short lengths are part of the first byte,
larger ones follow it in one, two, four or eight bytes, the most significant byte first.
-/

namespace DataParallel.MessagePack

/-- A number in `count` bytes, the most significant one first. -/
def bigEndian (count n : Nat) : List UInt8 := (Bytes.littleEndian count n).reverse

/-- The number of a list of bytes, the most significant one first. -/
def ofBigEndian (bs : List UInt8) : Nat := Bytes.toNat bs.reverse

@[simp] theorem length_bigEndian (count n : Nat) : (bigEndian count n).length = count := by
  simp [bigEndian]

theorem ofBigEndian_bigEndian (count n : Nat) :
    ofBigEndian (bigEndian count n) = n % 256 ^ count := by
  simp [ofBigEndian, bigEndian, Bytes.toNat_littleEndian]

/-- A first byte and a number behind it. -/
def tagged (tag : UInt8) (count n : Nat) : List UInt8 := tag :: bigEndian count n

/-- The first form that has room for a number: the first byte itself holds the numbers below
`room`, and then each tag stands in front of a count of bytes. -/
def shortest (base room : Nat) (forms : List (UInt8 × Nat)) (beyond : Fault) (n : Nat) :
    Except Fault (List UInt8) :=
  if n < room then .ok [UInt8.ofNat (base + n)]
  else
    match forms.find? fun form => n < 256 ^ form.2 with
    | some (tag, count) => .ok (tagged tag count n)
    | none => .error beyond

/-- A number that is not negative. -/
def natHead : Nat → Except Fault (List UInt8) :=
  shortest 0 0x80 [(0xCC, 1), (0xCD, 2), (0xCE, 4), (0xCF, 8)] .tooLarge

/-- An integer. -/
def writeInt (n : Int) : Except Fault (List UInt8) :=
  if 0 ≤ n then natHead n.toNat
  else if -0x20 ≤ n then .ok [UInt8.ofNat (0x100 + n).toNat]
  else if -0x80 ≤ n then .ok (tagged 0xD0 1 (0x100 + n).toNat)
  else if -0x8000 ≤ n then .ok (tagged 0xD1 2 (0x10000 + n).toNat)
  else if -0x80000000 ≤ n then .ok (tagged 0xD2 4 (0x100000000 + n).toNat)
  else if -0x8000000000000000 ≤ n then
    .ok (tagged 0xD3 8 (0x10000000000000000 + n).toNat)
  else .error .tooLarge

/-- The first bytes of a text of a given length. -/
def textHead : Nat → Except Fault (List UInt8) :=
  shortest 0xA0 0x20 [(0xD9, 1), (0xDA, 2), (0xDB, 4)] .badValue

/-- The first bytes of a byte string of a given length. -/
def bytesHead : Nat → Except Fault (List UInt8) :=
  shortest 0 0 [(0xC4, 1), (0xC5, 2), (0xC6, 4)] .badValue

/-- The first bytes of a list of a given length. -/
def listHead : Nat → Except Fault (List UInt8) :=
  shortest 0x90 0x10 [(0xDC, 2), (0xDD, 4)] .badValue

/-- The first bytes of a record of a given number of entries. -/
def recordHead : Nat → Except Fault (List UInt8) :=
  shortest 0x80 0x10 [(0xDE, 2), (0xDF, 4)] .badValue

/-- A text in its usual encoding. -/
def writeText (s : String) : Except Fault (List UInt8) := do
  let bs := s.toUTF8.data.toList
  return (← textHead bs.length) ++ bs

mutual

/-- The shortest form of a value. -/
def write : Value → Except Fault (List UInt8)
  | .null => .ok [0xC0]
  | .bool b => .ok [if b then 0xC3 else 0xC2]
  | .int n => writeInt n
  | .float x => .ok (tagged 0xCB 8 x.toBits.toNat)
  | .text s => writeText s
  | .broken _ => .error .brokenText
  | .bytes bs => do return (← bytesHead bs.length) ++ bs
  | .list vs => do return (← listHead vs.length) ++ (← writeItems vs)
  | .tuple vs => do return (← listHead vs.length) ++ (← writeItems vs)
  | .record es => do return (← recordHead es.length) ++ (← writeEntries es)
  | _ => .error .wrongType
termination_by structural v => v

/-- The items of a list one after the other. -/
def writeItems : List Value → Except Fault (List UInt8)
  | [] => .ok []
  | v :: vs => do return (← write v) ++ (← writeItems vs)
termination_by structural vs => vs

/-- The entries of a record one after the other, each key before its value. -/
def writeEntries : List (Value × Value) → Except Fault (List UInt8)
  | [] => .ok []
  | (k, v) :: es => do return (← write k) ++ (← write v) ++ (← writeEntries es)
termination_by structural es => es

end

end DataParallel.MessagePack

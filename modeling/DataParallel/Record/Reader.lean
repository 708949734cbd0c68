import DataParallel.MessagePack.Reader
import DataParallel.Record.Writer
import DataParallel.Step
import DataParallel.Tensor.Contents
import DataParallel.Tensor.Filled
import DataParallel.Tensor.Literal

/-!
# Reading array records

The reader takes a record off the front of a stream.  The length of the payload must be what the
header implies; the product of the dimensions is calculated in eight bytes, where it may wrap
around, before the dimensions themselves are looked at.  A record of numbers holds a tensor; items
of other types are carried as they are.
-/

namespace DataParallel

/-- What is left of a stream of bytes. -/
abbrev Stream := List UInt8

namespace Record

/-- The longest piece that can be asked for. -/
def maxPiece : Nat := 2 ^ 63 - 1

/-- Takes a number of bytes off a stream; a stream with fewer is used up. -/
def take (n : Nat) : Step Stream (List UInt8) :=
  .make fun bs =>
    if maxPiece < n then (.error .tooLarge, bs)
    else if n ≤ bs.length then (.ok (bs.take n), bs.drop n)
    else (.error (.cutShort n bs.length), [])

/-- Eight-byte arithmetic: the remainder nearest to zero. -/
def wrap (n : Int) : Int := Int.bmod n (2 ^ 64)

/-- Whether a dimension is a text of characters. -/
def isCharacters : Value → Bool
  | .text _ => true
  | _ => false

/-- Whether a dimension is text. -/
def isText : Value → Bool
  | .text _ => true
  | .bytes _ => true
  | _ => false

/-- The number that a dimension among texts stands for.  Zeros at the end of a text do not count;
truth values and floats stand for none. -/
def textFactor : Value → Except Fault Int
  | .bool _ => .error .badValue
  | .float _ => .error .badValue
  | .text s => (Value.text (String.ofList (Text.dropRight (· = '\x00') s.toList))).toInt
  | .bytes bs => (Value.bytes (bs.reverse.dropWhile (· = 0)).reverse).toInt
  | v => v.toInt

/-- Whether texts of characters stand beside bytes that are none. -/
def isMixedText (vs : List Value) : Bool :=
  vs.any isCharacters &&
    vs.any fun v => match v with | .bytes bs => (Value.asciiText? bs).isNone | _ => false

/-- Whether a whole dimension needs all bits of eight bytes. -/
def isHuge : Value → Bool
  | .int n => 2 ^ 63 ≤ n
  | _ => false

/-- Whether a dimension makes all others floats: a float is among them, or whole numbers that
have no common eight-byte type. -/
def needsFloat (vs : List Value) : Bool :=
  vs.any (fun v => match v with | .float _ => true | _ => false) ||
    (vs.any isHuge && vs.any (fun v => match v with | .int n => n < 2 ^ 63 | _ => false))

/-- A whole number within eight bytes. -/
def withinEight (n : Int) : Except Fault Int :=
  if -(2 ^ 63 : Int) ≤ n ∧ n < 2 ^ 63 then .ok n else .error .tooLarge

/-- The eight-byte integers that the dimensions of a header are calculated with. -/
def factors (vs : List Value) : Except Fault (List Int) :=
  if vs.any (fun v => v.scalar?.isNone && !isText v) then
    vs.mapM fun v => v.toInt >>= withinEight
  else if isMixedText vs then .error .badText
  else if vs.any isText then vs.mapM fun v => textFactor v >>= withinEight
  else if needsFloat vs then do
    let xs ← Tensor.scalars vs
    xs.mapM fun s => do return ElementType.truncated (Number.floatValue (← s.toFloat))
  else do
    let ns ← vs.mapM Value.toInt
    return ns.map wrap

/-- The number of elements that a header implies. -/
def impliedCount (dims : List Value) : Except Fault Int := do
  let shape ← Tensor.literalShape (.list dims)
  if Shape.maxRank < shape.length then throw .badValue
  let fs ← factors (Tensor.leavesOf dims)
  return fs.foldl (fun product d => wrap (product * d)) 1

/-- The entry of a header. -/
def entry (key : String) (header : Value) : Except Fault Value :=
  match header with
  | .record es => (Value.find? (.text key) es).elim (.error .missingKey) .ok
  | _ => .error .wrongType

/-- The contents of a payload whose length is right. -/
def assemble (t : ItemType) (dims : List Value) (payload : List UInt8) :
    Except Fault Contents := do
  if t.size = 0 || !t.readable then throw .badValue
  let (item, perItem) := t.innermost
  let count := payload.length / t.size * perItem
  match item with
  | .number dtype =>
    match Tensor.ofBytes? dtype [count] payload with
    | none => throw .badValue
    | some flat => return .tensor (← flat.reshape (← Shape.dimensions dims))
  | item =>
    let shape ← Tensor.reshaped item.size count (← Shape.dimensions dims)
    if h : payload.length = shape.size * item.size then
      return .carried ⟨item.code, item.size, shape, payload, h⟩
    throw .badValue

/-- Reads one record: the name in the header and the contents. -/
def readContents : Step Stream (Value × Contents) := do
  let mark ← take marker.length
  if mark ≠ marker then throw (.badMarker mark)
  let headLength ← take 4
  let head ← take (Bytes.toNat headLength)
  let header ← Step.ofExcept (MessagePack.read head)
  let item ← Step.ofExcept (entry "dtype" header >>= ItemType.ofValue)
  let dims ← Step.ofExcept (entry "shape" header >>= Value.items)
  let payloadLength := Bytes.toNat (← take 8)
  let count ← Step.ofExcept (impliedCount dims)
  let implied := count * (item.size : Nat)
  if (payloadLength : Int) ≠ implied then throw (.payloadSize payloadLength implied)
  let payload ← take payloadLength
  let contents ← Step.ofExcept (assemble item dims payload)
  let name := (header.field? "name").getD .null
  return (name, contents)

end Record

end DataParallel

import DataParallel.Fault
import DataParallel.Text.Digit

/-!
# Reading loose values

What a component may ask of a value from outside: to be converted to a whole number, to be one,
to be run through item by item, to be read as a record.  A value that does not fit is refused
with a fault of the plain kind.
-/

namespace DataParallel.Value

/-- The characters of a byte string, if all are ASCII. -/
def asciiText? (bs : List UInt8) : Option (List Char) :=
  if bs.all (· < 128) then some (bs.map fun b => Char.ofNat b.toNat) else none

/-- Converts a value to a whole number: a float loses its fraction, a text is read. -/
def toInt : Value → Except Fault Int
  | bool b => .ok (if b then 1 else 0)
  | int n => .ok n
  | float x =>
    match Number.floatValue x with
    | .nan => .error .badValue
    | .infinite _ => .error .tooLarge
    | v => .ok (v.truncate?.getD 0)
  | text s => (Text.readInt? s.toList).elim (.error .badValue) .ok
  | broken _ => .error .badValue
  | bytes bs => ((asciiText? bs).bind Text.readInt?).elim (.error .badValue) .ok
  | _ => .error .wrongType

/-- The whole number that a value is, without conversion. -/
def toIndex : Value → Except Fault Int
  | bool b => .ok (if b then 1 else 0)
  | int n => .ok n
  | _ => .error .wrongType

/-- The items of a value that can be run through; a record gives its keys. -/
def items : Value → Except Fault (List Value)
  | list vs => .ok vs
  | tuple vs => .ok vs
  | text s => .ok (s.toList.map fun c => text (String.singleton c))
  | broken codes => .ok (codes.map fun n => ofCodes [n])
  | bytes bs => .ok (bs.map fun b => int b.toNat)
  | record entries => .ok (entries.map (·.1))
  | array (list rows) => .ok rows
  | extension code data => .ok [int code, bytes data]
  | _ => .error .wrongType

/-- Adds the pairs of a sequence to a record. -/
def addPairs : List Value → List (Value × Value) → Except Fault (List (Value × Value))
  | [], entries => .ok entries
  | pair :: rest, entries => do
    match ← pair.items with
    | [key, v] =>
      if key.isKey then addPairs rest (insert key v entries) else .error .wrongType
    | _ => .error .badValue

/-- A copy of a record, or the record of a sequence of pairs. -/
def toEntries : Value → Except Fault (List (Value × Value))
  | record entries => .ok entries
  | v => do addPairs (← v.items) []

end DataParallel.Value

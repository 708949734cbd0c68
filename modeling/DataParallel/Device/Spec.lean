import DataParallel.Fault
import DataParallel.Text.Case
import DataParallel.Text.Digit

/-!
# Device specs

A spec such as `gpu`, `gpu:1` or `gpu(1)` names a device.  Blanks around it and the letter case
do not matter; without a number the device is the first of its type.
-/

namespace DataParallel.Device

/-- The characters of a spec in the form with a colon: without blanks around them, in lower case,
with opening parentheses as colons and without closing parentheses at the end. -/
def normalForm (spec : List Char) : List Char :=
  let cs := (Text.lower (Text.strip spec)).map fun c => if c = '(' then ':' else c
  Text.dropRight (· == ')') cs

/-- Reads a device spec. -/
def ofSpec (spec : String) : Except Fault Device :=
  let cs := normalForm spec.toList
  let kind := cs.takeWhile (· != ':')
  let index := (cs.dropWhile (· != ':')).drop 1
  if kind = [] then .error (.deviceSpec spec)
  else if index = [] then .ok (.unit (String.ofList kind) 0)
  else
    match Text.readInt? index with
    | some n => .ok (.unit (String.ofList kind) n)
    | none => .error (.deviceIndex spec)

/-- Reads a device spec that is a loose value.  Bytes have the operations of a text, but take no
text in place of a character. -/
def ofValue : Value → Except Fault Device
  | .bytes _ => .error .wrongType
  | v => v.text?.elim (.error .missingPart) ofSpec

end DataParallel.Device

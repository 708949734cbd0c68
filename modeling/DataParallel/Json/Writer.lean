import DataParallel.Fault
import DataParallel.Text.Quoted

/-!
# Writing values as JSON

The indented text form: an item or an entry to a line, two more spaces for each level, and
nothing between the brackets of an empty list or record.  Texts are written in ASCII with
escapes; floats have their shortest decimals.  Tuples are written like lists, and an entry whose key
is no text has the form of the key as its name.
-/

namespace DataParallel.Json

/-- Four digits in base sixteen behind the mark of an escape. -/
def escapeUnit (n : Nat) : List Char := '\\' :: 'u' :: Text.hexDigits 4 n

/-- The units of sixteen bits for a character. -/
def units (n : Nat) : List Nat :=
  if n < 0x10000 then [n]
  else [0xD800 + (n - 0x10000) / 0x400, 0xDC00 + (n - 0x10000) % 0x400]

/-- One character between the quotes. -/
def escapeChar (c : Char) : List Char :=
  if c = '"' || c = '\\' then ['\\', c]
  else if c = '\n' then ['\\', 'n']
  else if c = '\r' then ['\\', 'r']
  else if c = '\t' then ['\\', 't']
  else if c.toNat = 12 then ['\\', 'f']
  else if c.toNat = 8 then ['\\', 'b']
  else if 32 ≤ c.toNat && c.toNat < 127 then [c]
  else (units c.toNat).flatMap escapeUnit

/-- A text between quotes. -/
def quote (s : String) : List Char :=
  '"' :: (s.toList.flatMap escapeChar ++ ['"'])

/-- A text of code points between quotes; a half of a character is one unit. -/
def quoteCodes (codes : List Nat) : List Char :=
  let escape (n : Nat) : List Char :=
    if Text.isHalf n then escapeUnit n else escapeChar (Char.ofNat n)
  '"' :: (codes.flatMap escape ++ ['"'])

/-- The words for the floats without digits. -/
def words : Number.FloatWords := ⟨"NaN", "Infinity"⟩

/-- A new line at a level of nesting. -/
def newLine (level : Nat) : List Char := '\n' :: List.replicate (2 * level) ' '

/-- Joins the lines of a list or record. -/
def separate (level : Nat) : List (List Char) → List Char
  | [] => []
  | [line] => newLine level ++ line
  | line :: rest => newLine level ++ line ++ ',' :: separate level rest

/-- Puts lines between brackets. -/
def bracket (opening closing : Char) (level : Nat) : List (List Char) → List Char
  | [] => [opening, closing]
  | lines => opening :: (separate (level + 1) lines ++ newLine level ++ [closing])

/-- The name of an entry with this key, if it can have one. -/
def name? : Value → Option (List Char)
  | .null => some (quote "null")
  | .bool b => some (quote (if b then "true" else "false"))
  | .int n => some (quote (Number.intText n))
  | .float x => some (quote (Number.floatTextWith words x))
  | .text s => some (quote s)
  | .broken codes => some (quoteCodes codes)
  | _ => none

mutual

/-- Whether a value has a JSON form. -/
def expressible : Value → Bool
  | .null => true
  | .bool _ => true
  | .int _ => true
  | .float _ => true
  | .text _ => true
  | .broken _ => true
  | .list vs => allExpressible vs
  | .tuple vs => allExpressible vs
  | .record es => entriesExpressible es
  | _ => false
termination_by structural v => v

/-- Whether all values have a JSON form. -/
def allExpressible : List Value → Bool
  | [] => true
  | v :: vs => expressible v && allExpressible vs
termination_by structural vs => vs

/-- Whether all entries have a name and a JSON form. -/
def entriesExpressible : List (Value × Value) → Bool
  | [] => true
  | (k, v) :: es => (name? k).isSome && expressible v && entriesExpressible es
termination_by structural es => es

end

mutual

/-- The characters of a value at a level of nesting. -/
def render (level : Nat) : Value → List Char
  | .null => ['n', 'u', 'l', 'l']
  | .bool b => if b then ['t', 'r', 'u', 'e'] else ['f', 'a', 'l', 's', 'e']
  | .int n => (Number.intText n).toList
  | .float x => (Number.floatTextWith words x).toList
  | .text s => quote s
  | .broken codes => quoteCodes codes
  | .list vs => bracket '[' ']' level (renderItems (level + 1) vs)
  | .tuple vs => bracket '[' ']' level (renderItems (level + 1) vs)
  | .record es => bracket '\x7b' '\x7d' level (renderEntries (level + 1) es)
  | _ => []
termination_by structural v => v

/-- The lines of a list. -/
def renderItems (level : Nat) : List Value → List (List Char)
  | [] => []
  | v :: vs => render level v :: renderItems level vs
termination_by structural vs => vs

/-- The lines of a record. -/
def renderEntries (level : Nat) : List (Value × Value) → List (List Char)
  | [] => []
  | (k, v) :: es =>
    ((name? k).getD [] ++ ':' :: ' ' :: render level v) :: renderEntries level es
termination_by structural es => es

end

/-- The JSON form of a value. -/
def write (v : Value) : Except Fault String :=
  if expressible v then .ok (String.ofList (render 0 v)) else .error .wrongType

end DataParallel.Json

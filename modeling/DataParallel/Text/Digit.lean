import DataParallel.Text.Blank

/-!
# Decimal digits of all scripts

Every script keeps its ten digits in one row of consecutive code points, so a digit is known by
the zero of its row.  Whole numbers are read liberally: digits of any script, single underscores
between digits, a sign, and blanks around the number.
-/

namespace DataParallel.Text

/-- The zeros of the rows of decimal digits. -/
def digitZeros : List Nat :=
  [0x30, 0x660, 0x6F0, 0x7C0, 0x966, 0x9E6, 0xA66, 0xAE6, 0xB66, 0xBE6, 0xC66, 0xCE6, 0xD66,
   0xDE6, 0xE50, 0xED0, 0xF20, 0x1040, 0x1090, 0x17E0, 0x1810, 0x1946, 0x19D0, 0x1A80, 0x1A90,
   0x1B50, 0x1BB0, 0x1C40, 0x1C50, 0xA620, 0xA8D0, 0xA900, 0xA9D0, 0xA9F0, 0xAA50, 0xABF0,
   0xFF10, 0x104A0, 0x10D30, 0x11066, 0x110F0, 0x11136, 0x111D0, 0x112F0, 0x11450, 0x114D0,
   0x11650, 0x116C0, 0x11730, 0x118E0, 0x11950, 0x11C50, 0x11D50, 0x11DA0, 0x16A60, 0x16AC0,
   0x16B50, 0x1D7CE, 0x1D7D8, 0x1D7E2, 0x1D7EC, 0x1D7F6, 0x1E140, 0x1E2F0, 0x1E950, 0x1FBF0]

/-- The value of a decimal digit of any script. -/
def digitValue? (c : Char) : Option Nat :=
  (digitZeros.find? fun row => row ≤ c.toNat && c.toNat < row + 10).map (c.toNat - ·)

/-- The most digits a whole number in a text may have. -/
def maxDigits : Nat := 4300

/-- Reads digits with single underscores between them; the result lists the digit values. -/
def readDigits? : List Char → Option (List Nat)
  | [] => none
  | [c] => (digitValue? c).map ([·])
  | c :: '_' :: rest => do
    let d ← digitValue? c
    let ds ← readDigits? rest
    return d :: ds
  | c :: rest => do
    let d ← digitValue? c
    let ds ← readDigits? rest
    return d :: ds

/-- The number with the given decimal digits, the most significant first. -/
def ofDigits (ds : List Nat) : Nat :=
  ds.foldl (fun n d => 10 * n + d) 0

/-- Reads an unsigned whole number; more than `maxDigits` digits are refused. -/
def readNat? (s : List Char) : Option Nat := do
  let ds ← readDigits? s
  if ds.length ≤ maxDigits then some (ofDigits ds) else none

/-- Reads a whole number with an optional sign between optional blanks. -/
def readInt? (s : List Char) : Option Int :=
  match trim isNumberBlank s with
  | '-' :: rest => (readNat? rest).map fun n => -(n : Int)
  | '+' :: rest => (readNat? rest).map fun n => (n : Int)
  | rest => (readNat? rest).map fun n => (n : Int)

end DataParallel.Text

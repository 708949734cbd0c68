import DataParallel.Number.Shortest

/-!
# How numbers are written

A float is written with the digits of its shortest decimal: positionally if its leading digit
stands between the fourth place after the point and the sixteenth before it, with a point and a
zero if it is whole, and otherwise with an exponent of a sign and at least two digits.
-/

namespace DataParallel.Number

/-- The decimal digits of a number as characters. -/
def natDigits (n : Nat) : List Char := Nat.toDigits 10 n

/-- A whole number. -/
def intText (n : Int) : String :=
  String.ofList ((if n < 0 then ['-'] else []) ++ natDigits n.natAbs)

/-- An exponent with its sign and at least two digits. -/
def exponentText (e : Int) : List Char :=
  let ds := natDigits e.natAbs
  (if e < 0 then '-' else '+') :: (if ds.length < 2 then '0' :: ds else ds)

/-- Digits with the point after the first `whole` places; places outside the digits are zeros. -/
def positional (digits : List Char) (whole : Int) : List Char :=
  if whole ≤ 0 then
    '0' :: '.' :: (List.replicate (-whole).toNat '0' ++ digits)
  else
    let w := whole.toNat
    let padded := digits ++ List.replicate (w - digits.length) '0'
    let rest := padded.drop w
    padded.take w ++ '.' :: (if rest.isEmpty then ['0'] else rest)

/-- Digits with a point after the first and an exponent. -/
def scientific (digits : List Char) (exponent : Int) : List Char :=
  match digits with
  | [] => []
  | [d] => d :: 'e' :: exponentText exponent
  | d :: ds => d :: '.' :: (ds ++ 'e' :: exponentText exponent)

/-- A decimal in the notation that its size asks for. -/
def decimalText (d : Decimal) : List Char :=
  let digits := natDigits d.digits
  let leading := d.exponent + digits.length - 1
  if -4 ≤ leading ∧ leading < 16 then positional digits (leading + 1)
  else scientific digits leading

/-- The words for the values that have no digits. -/
structure FloatWords where
  nan : String
  infinity : String

/-- A float; its not-a-number and its infinities are named by `words`. -/
def floatTextWith (words : FloatWords) (x : Float) : String :=
  match BinaryFormat.binary64.decode x.toBits.toNat with
  | .nan => words.nan
  | .infinite negative => (if negative then "-" else "") ++ words.infinity
  | .finite negative significand exponent =>
    let body := if significand = 0 then ['0', '.', '0']
      else decimalText (.shortest .binary64 significand exponent)
    String.ofList ((if negative then ['-'] else []) ++ body)

/-- A float as messages show it. -/
def floatText (x : Float) : String := floatTextWith ⟨"nan", "inf"⟩ x

/-- The float nearest to a decimal. -/
def floatOfDecimal (negative : Bool) (digits : Nat) (exponent : Int) : Float :=
  Float.ofBits (UInt64.ofNat (BinaryFormat.binary64.ofDecimal negative digits exponent))

/-- The float nearest to an integer, if it is not beyond the range. -/
def floatOfInt? (n : Int) : Option Float :=
  let bits := BinaryFormat.binary64.ofInt n
  if bits % 2 ^ 63 = BinaryFormat.binary64.infinity then none
  else some (Float.ofBits (UInt64.ofNat bits))

/-- The exact value of a float. -/
def floatValue (x : Float) : BinaryValue :=
  BinaryFormat.binary64.decode x.toBits.toNat

end DataParallel.Number

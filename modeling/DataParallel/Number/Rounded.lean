import DataParallel.Number.Notation

/-!
# Numbers with a given precision

A float can be written with a given count of places behind the point, with an exponent and a
given count of digits, or in the shorter of both forms with a given count of significant digits.
The exact value is rounded, a half to the even digit.
-/

namespace DataParallel.Number

/-- A value rounded to a multiple of `10 ^ exponent`, counted in that unit. -/
def roundAt (significand : Nat) (exponent place : Int) : Nat :=
  let (num, den) := scaleDown 2 significand 1 (-exponent)
  let (num, den) := scaleDown 10 num den place
  roundHalfEven num den

/-- Digits with leading zeros up to a width. -/
def padded (width n : Nat) : List Char :=
  let ds := natDigits n
  List.replicate (width - ds.length) '0' ++ ds

/-- A point with the digits behind it; a point alone is left out unless it is asked for. -/
def pointed (keepPoint : Bool) (digits : List Char) : List Char :=
  if digits.isEmpty && !keepPoint then [] else '.' :: digits

/-- A value with a number of places behind the point. -/
def fixedText (keepPoint : Bool) (significand : Nat) (exponent : Int) (places : Nat) :
    List Char :=
  let ds := padded (places + 1) (roundAt significand exponent (-(places : Nat)))
  let whole := ds.length - places
  ds.take whole ++ pointed keepPoint (ds.drop whole)

/-- The decimal exponent of a positive value, by search downwards from a place above it. -/
def leadingPlace (significand : Nat) (exponent : Int) : Nat → Int → Int
  | 0, place => place
  | fuel + 1, place =>
    let (num, den) := scaleDown 2 significand 1 (-exponent)
    let (num, den) := scaleDown 10 num den place
    if den ≤ num then place else leadingPlace significand exponent fuel (place - 1)

/-- The digits and the decimal exponent of a value rounded to a number of digits. -/
def roundedDigits (significand : Nat) (exponent : Int) (digits : Nat) : List Char × Int :=
  if significand = 0 then (List.replicate digits '0', 0)
  else
    let place := leadingPlace significand exponent 700 310
    let n := roundAt significand exponent (place - digits + 1)
    if n < 10 ^ digits then (natDigits n, place) else (natDigits (n / 10), place + 1)

/-- Digits with a point behind the first and an exponent. -/
def exponentForm (keepPoint : Bool) (digits : List Char) (exponent : Int) : List Char :=
  digits.take 1 ++ pointed keepPoint (digits.drop 1) ++ 'e' :: exponentText exponent

/-- A value with one digit before the point, a number of places behind it, and an exponent. -/
def exponentialText (keepPoint : Bool) (significand : Nat) (exponent : Int) (places : Nat) :
    List Char :=
  let (digits, e) := roundedDigits significand exponent (places + 1)
  exponentForm keepPoint digits e

/-- More digits than any float has; all behind them are zeros. -/
def maxSignificant : Nat := 1100

/-- A value with a number of significant digits, with an exponent if that is shorter. -/
def generalText (keepZeros : Bool) (significand : Nat) (exponent : Int) (precision : Nat) :
    List Char :=
  let precision := max 1 (if keepZeros then precision else min precision maxSignificant)
  let (digits, e) := roundedDigits significand exponent precision
  let trim (ds : List Char) := if keepZeros then ds else (ds.reverse.dropWhile (· == '0')).reverse
  if e < -4 ∨ (precision : Int) ≤ e then
    exponentForm keepZeros (digits.take 1 ++ trim (digits.drop 1)) e
  else if e < 0 then
    '0' :: pointed keepZeros (trim (List.replicate (-e - 1).toNat '0' ++ digits))
  else
    let whole := e.toNat + 1
    digits.take whole ++ pointed keepZeros (trim (digits.drop whole))

end DataParallel.Number

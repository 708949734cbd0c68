import DataParallel.Number.Binary

/-!
# Shortest decimals

The decimal with the fewest digits that rounds to a given binary value, and among those the
nearest one; of two equally near ones the last digit is even.  A candidate is accepted only if it
reads back as the given pattern, so what is found always does.
-/

namespace DataParallel.Number

/-- The decimal `digits * 10 ^ exponent`. -/
structure Decimal where
  digits : Nat
  exponent : Int
  deriving DecidableEq, Repr

namespace Decimal

/-- The greatest power of ten that is at most a positive quotient, by its exponent. -/
def floorLog10 (num den : Nat) : Int :=
  if den ≤ num then (Nat.toDigits 10 (num / den)).length - 1
  else
    let inverse := (den + num - 1) / num
    Int.negOfNat (Nat.toDigits 10 (inverse - 1)).length

/-- Moves trailing zeros into the exponent; the fuel bounds their number. -/
def dropZeros : Nat → Decimal → Decimal
  | 0, d => d
  | fuel + 1, d =>
    if d.digits ≠ 0 ∧ d.digits % 10 = 0 then dropZeros fuel ⟨d.digits / 10, d.exponent + 1⟩
    else d

/-- Whether a decimal rounds to the given pattern. -/
def readsAs (f : BinaryFormat) (bits : Nat) (d : Decimal) : Bool :=
  f.ofDecimal false d.digits d.exponent == bits

/-- The better of the two neighbours of a quotient on the grid of the given place, if one of
them reads back. -/
def onGrid? (f : BinaryFormat) (bits num den : Nat) (place : Int) : Option Decimal :=
  let (n, d) := scaleDown 10 num den place
  let low : Decimal := ⟨n / d, place⟩
  let high : Decimal := ⟨n / d + 1, place⟩
  match readsAs f bits low, readsAs f bits high with
  | true, true => some (if roundHalfEven n d = low.digits then low else high)
  | true, false => some low
  | false, true => some high
  | false, false => none

/-- Tries grids of more and more digits; the exact expansion ends the search. -/
def search (f : BinaryFormat) (bits num den : Nat) : Nat → Int → Decimal
  | 0, _ => ⟨num * 10 ^ den.log2 / den, -(den.log2 : Int)⟩
  | fuel + 1, place =>
    (onGrid? f bits num den place).getD (search f bits num den fuel (place - 1))

/-- The shortest decimal for the positive value `significand * 2 ^ exponent` of a format. -/
def shortest (f : BinaryFormat) (significand : Nat) (exponent : Int) : Decimal :=
  let num := significand * 2 ^ exponent.toNat
  let den := 2 ^ (-exponent).toNat
  let bits := f.ofRatio false num den
  let found := search f bits num den 17 (floorLog10 num den)
  dropZeros (Nat.toDigits 10 found.digits).length found

end Decimal

example : Decimal.shortest .binary64 0x1999999999999A (-56) = ⟨1, -1⟩ := by decide +kernel

example : Decimal.shortest .binary64 1 (-1074) = ⟨5, -324⟩ := by decide +kernel

end DataParallel.Number

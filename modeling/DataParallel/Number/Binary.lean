/-!
# Binary floating point formats

A format is given by the sizes of its significand and of its exponent.  Bit patterns are numbers.
`BinaryFormat.decode` reads a pattern as an exact value and `BinaryFormat.ofRatio` rounds an exact
quotient to the nearest pattern, a half going to the even neighbour; conversions between formats,
from integers and from decimals are all made of these two.
-/

namespace DataParallel.Number

/-- The quotient of two numbers rounded to the nearest one, a half to the even neighbour. -/
def roundHalfEven (num den : Nat) : Nat :=
  let low := num / den
  let rest := num % den
  if den < 2 * rest || (2 * rest == den && low % 2 == 1) then low + 1 else low

/-- `num / den` over `base ^ exponent`, as numerator and denominator. -/
def scaleDown (base num den : Nat) (exponent : Int) : Nat × Nat :=
  (num * base ^ (-exponent).toNat, den * base ^ exponent.toNat)

/-- The greatest power of two that is at most a positive quotient, by its exponent. -/
def floorLog2 (num den : Nat) : Int :=
  let guess : Int := (num.log2 : Int) - den.log2
  let (n, d) := scaleDown 2 num den guess
  if d ≤ n then guess else guess - 1

/-- The value of a bit pattern: `significand * 2 ^ exponent`, with its sign, if it is finite. -/
inductive BinaryValue where
  | nan
  | infinite (negative : Bool)
  | finite (negative : Bool) (significand : Nat) (exponent : Int)
  deriving DecidableEq, Repr

/-- A binary format of the usual kind. -/
structure BinaryFormat where
  /-- Bits of the significand, the leading one included. -/
  precision : Nat
  /-- Bits of the exponent. -/
  exponentBits : Nat
  deriving DecidableEq, Repr

namespace BinaryFormat

/-- Two bytes. -/
def binary16 : BinaryFormat := ⟨11, 5⟩

/-- Four bytes. -/
def binary32 : BinaryFormat := ⟨24, 8⟩

/-- Eight bytes. -/
def binary64 : BinaryFormat := ⟨53, 11⟩

/-- The number of fractions that share one exponent. -/
def fractions (f : BinaryFormat) : Nat := 2 ^ (f.precision - 1)

/-- The exponent of the last place of the smallest values. -/
def minExponent (f : BinaryFormat) : Int :=
  3 - (2 ^ (f.exponentBits - 1) : Nat) - f.precision

/-- The pattern of positive infinity. -/
def infinity (f : BinaryFormat) : Nat := (2 ^ f.exponentBits - 1) * f.fractions

/-- The pattern of the quiet not-a-number without sign and payload. -/
def quietNaN (f : BinaryFormat) : Nat := f.infinity + f.fractions / 2

/-- Sets the sign bit of a pattern. -/
def signed (f : BinaryFormat) (negative : Bool) (bits : Nat) : Nat :=
  if negative then 2 ^ (f.precision - 1 + f.exponentBits) + bits else bits

/-- The value of a pattern. -/
def decode (f : BinaryFormat) (bits : Nat) : BinaryValue :=
  let fraction := bits % f.fractions
  let biased := bits / f.fractions % 2 ^ f.exponentBits
  let negative := bits / (f.fractions * 2 ^ f.exponentBits) % 2 == 1
  if biased = 2 ^ f.exponentBits - 1 then
    if fraction = 0 then .infinite negative else .nan
  else if biased = 0 then .finite negative fraction f.minExponent
  else .finite negative (f.fractions + fraction) (f.minExponent + biased - 1)

/-- The pattern nearest to `num / den`; values beyond the range become infinite. -/
def ofRatio (f : BinaryFormat) (negative : Bool) (num den : Nat) : Nat :=
  if num = 0 then f.signed negative 0
  else
    let place := max (floorLog2 num den - (f.precision - 1 : Nat)) f.minExponent
    let (n, d) := scaleDown 2 num den place
    let bits := (place - f.minExponent).toNat * f.fractions + roundHalfEven n d
    f.signed negative (min bits f.infinity)

/-- The pattern nearest to a value. -/
def encode (f : BinaryFormat) : BinaryValue → Nat
  | .nan => f.quietNaN
  | .infinite negative => f.signed negative f.infinity
  | .finite negative significand exponent =>
    f.ofRatio negative (significand * 2 ^ exponent.toNat) (2 ^ (-exponent).toNat)

/-- The pattern nearest to an integer. -/
def ofInt (f : BinaryFormat) (n : Int) : Nat :=
  f.ofRatio (n < 0) n.natAbs 1

/-- The pattern nearest to `digits * 10 ^ exponent`.  A value with its leading digit far outside
the range of every format is settled without computing the power. -/
def ofDecimal (f : BinaryFormat) (negative : Bool) (digits : Nat) (exponent : Int) : Nat :=
  let leading := exponent + (Nat.toDigits 10 digits).length
  if digits = 0 || leading < -400 then f.signed negative 0
  else if 400 < leading then f.signed negative f.infinity
  else f.ofRatio negative (digits * 10 ^ exponent.toNat) (10 ^ (-exponent).toNat)

/-- Converts a pattern of one format to the nearest one of another. -/
def convert (source target : BinaryFormat) (bits : Nat) : Nat :=
  target.encode (source.decode bits)

end BinaryFormat

/-- The integer part of a finite value. -/
def BinaryValue.truncate? : BinaryValue → Option Int
  | .finite negative significand exponent =>
    let n : Int := (significand * 2 ^ exponent.toNat / 2 ^ (-exponent).toNat : Nat)
    some (if negative then -n else n)
  | _ => none

example : BinaryFormat.binary64.ofDecimal false 1 (-1) = 0x3FB999999999999A := by
  decide +kernel

example : BinaryFormat.binary64.convert .binary32 0x3FB999999999999A = 0x3DCCCCCD := by
  decide +kernel

example : BinaryFormat.binary32.convert .binary16 0x477FE000 = 0x7BFF := by
  decide +kernel

end DataParallel.Number

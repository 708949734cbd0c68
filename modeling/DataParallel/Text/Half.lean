/-!
# Halves of characters

A character beyond the first sixteen bits is encoded as a pair of code points, each of which is
half of it.  A text from outside may hold a half without the other one; it is then known by its
code points.  Where such a text has to be shown, private characters stand in for the halves.
-/

namespace DataParallel.Text

/-- Whether a code point is the first half of a pair. -/
def isHighHalf (code : Nat) : Bool := 0xD800 ≤ code && code < 0xDC00

/-- Whether a code point is the second half of a pair. -/
def isLowHalf (code : Nat) : Bool := 0xDC00 ≤ code && code < 0xE000

/-- Whether a code point is half of a pair. -/
def isHalf (code : Nat) : Bool := isHighHalf code || isLowHalf code

/-- The distance of a half and the character that stands in for it. -/
def standInOffset : Nat := 0x100000

/-- The character with a code point, or the one that stands in for a half. -/
def charOf (code : Nat) : Char :=
  Char.ofNat (if isHalf code then standInOffset + code else code)

/-- The code point that a character stands for. -/
def codeOf (c : Char) : Nat :=
  if isHalf (c.toNat - standInOffset) then c.toNat - standInOffset else c.toNat

/-- The text of code points, as it is shown. -/
def ofCodes (codes : List Nat) : String := String.ofList (codes.map charOf)

/-- The code points of a text that is shown. -/
def codes (s : String) : List Nat := s.toList.map codeOf

end DataParallel.Text

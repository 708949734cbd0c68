/-!
# Blank characters

White space in the wide sense of the character database: the ASCII blanks with the four
information separators, the next-line control, and the space separators.  A device spec may be
surrounded by any of them, a whole number by all but the information separators.
-/

namespace DataParallel.Text

/-- The characters that count as white space. -/
def isBlank (c : Char) : Bool :=
  let n := c.toNat
  (9 ≤ n && n ≤ 13) || (28 ≤ n && n ≤ 32) || n == 0x85 || n == 0xA0 || n == 0x1680 ||
    (0x2000 ≤ n && n ≤ 0x200A) || n == 0x2028 || n == 0x2029 || n == 0x202F ||
    n == 0x205F || n == 0x3000

/-- Drops the members of a class from the end of a text. -/
def dropRight (p : Char → Bool) (s : List Char) : List Char :=
  (s.reverse.dropWhile p).reverse

/-- The blanks without the four information separators: those allowed around a whole number. -/
def isNumberBlank (c : Char) : Bool :=
  isBlank c && !(28 ≤ c.toNat && c.toNat ≤ 31)

/-- Removes the members of a class at both ends. -/
def trim (p : Char → Bool) (s : List Char) : List Char :=
  dropRight p (s.dropWhile p)

/-- Removes the blanks at both ends. -/
def strip (s : List Char) : List Char := trim isBlank s

end DataParallel.Text

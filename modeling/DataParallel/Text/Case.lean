import DataParallel.Text.CaseTable

/-!
# Letter cases

The full case mappings of the character database.  Upper case may grow (`ß` becomes `SS`); lower
case grows for the dotted capital I alone.  A capital sigma at the end of a word becomes `ς` and
any other becomes `σ`; at the end of a word means that a letter with a case stands before it and
none after it, where the characters of `skippedRanges` do not count.
-/

namespace DataParallel.Text

/-- Membership of a code point in a list of ranges. -/
def inRanges (ranges : List (Nat × Nat)) (n : Nat) : Bool :=
  ranges.any fun (first, last) => first ≤ n && n ≤ last

/-- The image of a code point under a list of runs; a point outside all runs stays. -/
def mapByRuns (runs : List (Nat × Nat × Nat × Nat)) (n : Nat) : Nat :=
  match runs.find? fun (first, last, step, _) =>
      first ≤ n && n ≤ last && (n - first) % step == 0 with
  | some (first, _, _, image) => image + (n - first)
  | none => n

/-- Whether a character has a case and is not skipped around a sigma. -/
def isCased (c : Char) : Bool := inRanges casedRanges c.toNat

/-- Whether a character is skipped when the neighbours of a sigma are sought. -/
def isSkipped (c : Char) : Bool := inRanges skippedRanges c.toNat

/-- Whether the first character that is not skipped has a case. -/
def meetsCased (s : List Char) : Bool :=
  ((s.dropWhile isSkipped).head?.map isCased).getD false

/-- The lower-case form of one character that is no capital sigma. -/
def lowerChar (c : Char) : List Char :=
  if c.toNat = 0x130 then [Char.ofNat 0x69, Char.ofNat 0x307]
  else [Char.ofNat (mapByRuns lowerRuns c.toNat)]

/-- Lower case of a text whose already read part is given in reverse. -/
def lowerAfter : List Char → List Char → List Char
  | _, [] => []
  | before, c :: rest =>
    let image :=
      if c = 'Σ' then
        if meetsCased before && !meetsCased rest then ['ς'] else ['σ']
      else lowerChar c
    image ++ lowerAfter (c :: before) rest

/-- Lower case of a text. -/
def lower (s : List Char) : List Char := lowerAfter [] s

/-- The upper-case form of one character. -/
def upperChar (c : Char) : List Char :=
  match longUppers.lookup c.toNat with
  | some image => image.map Char.ofNat
  | none => [Char.ofNat (mapByRuns upperRuns c.toNat)]

/-- Upper case of a text. -/
def upper (s : List Char) : List Char := s.flatMap upperChar

/-- The upper case of a byte, which only Latin letters have. -/
def upperByte (b : UInt8) : UInt8 := if 97 ≤ b && b ≤ 122 then b - 32 else b

end DataParallel.Text

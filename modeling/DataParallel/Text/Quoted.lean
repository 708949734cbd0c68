import DataParallel.Text.Case
import DataParallel.Text.Half
import DataParallel.Text.PrintableTable

/-!
# Quoted text

The form in which messages show a text or a byte string.  Apostrophes quote, unless the text has
an apostrophe and no quotation mark; the quote in use and the backslash are escaped; characters
that cannot be shown as themselves are written by code point.
-/

namespace DataParallel.Text

/-- Whether a character is shown as itself. -/
def isPrintable (c : Char) : Bool := !inRanges unprintableRanges c.toNat

/-- A digit below sixteen in lower case. -/
def hexDigit (n : Nat) : Char :=
  if n < 10 then Char.ofNat (48 + n) else Char.ofNat (87 + n)

/-- The last `places` digits of a number in base sixteen. -/
def hexDigits : Nat → Nat → List Char
  | 0, _ => []
  | places + 1, n => hexDigits places (n / 16) ++ [hexDigit (n % 16)]

/-- The mark that quotes a text with these characters. -/
def quoteFor (s : List Char) : Char :=
  if s.contains '\'' && !s.contains '"' then '"' else '\''

/-- One character between quotes. -/
def escapeChar (quote c : Char) : List Char :=
  if c = quote || c = '\\' then ['\\', c]
  else if c = '\n' then ['\\', 'n']
  else if c = '\r' then ['\\', 'r']
  else if c = '\t' then ['\\', 't']
  else if isPrintable c then [c]
  else if c.toNat < 0x100 then '\\' :: 'x' :: hexDigits 2 c.toNat
  else if c.toNat < 0x10000 then '\\' :: 'u' :: hexDigits 4 c.toNat
  else '\\' :: 'U' :: hexDigits 8 c.toNat

/-- A text between quotes. -/
def quoted (s : String) : String :=
  let cs := s.toList
  let quote := quoteFor cs
  String.ofList (quote :: cs.flatMap (escapeChar quote) ++ [quote])

/-- A text of code points between quotes; a half of a character is written by code point. -/
def quotedCodes (codes : List Nat) : String :=
  let quote := quoteFor (codes.map charOf)
  let escape (n : Nat) : List Char :=
    if isHalf n then '\\' :: 'u' :: hexDigits 4 n else escapeChar quote (Char.ofNat n)
  String.ofList (quote :: codes.flatMap escape ++ [quote])

/-- A shown text between quotes, with the halves of characters in place of their stand-ins. -/
def quotedShown (s : String) : String := quotedCodes (codes s)

/-- One byte between quotes. -/
def escapeByte (quote : Char) (b : UInt8) : List Char :=
  let c := Char.ofNat b.toNat
  if c = quote || c = '\\' then ['\\', c]
  else if c = '\n' then ['\\', 'n']
  else if c = '\r' then ['\\', 'r']
  else if c = '\t' then ['\\', 't']
  else if 32 ≤ b && b < 127 then [c]
  else '\\' :: 'x' :: hexDigits 2 b.toNat

/-- A byte string between quotes, marked as such. -/
def quotedBytes (bs : List UInt8) : String :=
  let quote := quoteFor (bs.map fun b => Char.ofNat b.toNat)
  String.ofList ('b' :: quote :: bs.flatMap (escapeByte quote) ++ [quote])

end DataParallel.Text

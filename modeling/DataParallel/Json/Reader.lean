import DataParallel.Fault
import DataParallel.Text.Digit

/-!
# Reading JSON

A text holds one value between optional blanks.  A number with a point or an exponent is a float
and any other is a whole number; the words for not-a-number and for the infinities are numbers as
well.  A later entry of a record replaces an earlier one with the same key.  Half a character may
be given by an escape without the other half.
-/

namespace DataParallel.Json

/-- The blanks between the parts of a text. -/
def isBlank (c : Char) : Bool := c = ' ' || c = '\t' || c = '\n' || c = '\r'

/-- Drops blanks. -/
def skipBlanks (cs : List Char) : List Char := cs.dropWhile isBlank

/-- The value of a digit in base sixteen. -/
def hexValue? (c : Char) : Option Nat :=
  let n := c.toNat
  if 48 ≤ n && n ≤ 57 then some (n - 48)
  else if 65 ≤ n && n ≤ 70 then some (n - 55)
  else if 97 ≤ n && n ≤ 102 then some (n - 87)
  else none

/-- Four digits in base sixteen. -/
def readUnit : List Char → Option (Nat × List Char)
  | a :: b :: c :: d :: rest => do
    let ds ← [a, b, c, d].mapM hexValue?
    return (ds.foldl (fun n d => 16 * n + d) 0, rest)
  | _ => none

/-- The code point for the units behind the mark of an escape. -/
def readEscapedUnits (cs : List Char) : Option (Nat × List Char) := do
  let (n, rest) ← readUnit cs
  if Text.isHighHalf n then
    match rest with
    | '\\' :: 'u' :: more =>
      let (m, after) ← readUnit more
      if Text.isLowHalf m then
        return (0x10000 + (n - 0xD800) * 0x400 + (m - 0xDC00), after)
      else return (n, rest)
    | _ => return (n, rest)
  else return (n, rest)

/-- The character that a letter behind a backslash stands for. -/
def escaped? : Char → Option Char
  | '"' => some '"'
  | '\\' => some '\\'
  | '/' => some '/'
  | 'b' => some (Char.ofNat 8)
  | 'f' => some (Char.ofNat 12)
  | 'n' => some '\n'
  | 'r' => some '\r'
  | 't' => some '\t'
  | _ => none

/-- Reads the code points of a text up to its closing quote.  Control characters are refused. -/
def readTextBody : Nat → List Char → Option (List Nat × List Char)
  | 0, _ => none
  | _, [] => none
  | _ + 1, '"' :: rest => some ([], rest)
  | fuel + 1, '\\' :: 'u' :: rest => do
    let (c, rest) ← readEscapedUnits rest
    let (cs, rest) ← readTextBody fuel rest
    return (c :: cs, rest)
  | fuel + 1, '\\' :: e :: rest => do
    let c ← escaped? e
    let (cs, rest) ← readTextBody fuel rest
    return (c.toNat :: cs, rest)
  | fuel + 1, c :: rest =>
    if c.toNat < 32 || c = '\\' then none
    else do
      let (cs, rest) ← readTextBody fuel rest
      return (c.toNat :: cs, rest)

/-- Reads a text behind its opening quote. -/
def readText (cs : List Char) : Option (Value × List Char) :=
  (readTextBody cs.length cs).map fun (codes, rest) => (.ofCodes codes, rest)

/-- The number that ASCII digits stand for. -/
def ofDigits (ds : List Char) : Nat := ds.foldl (fun n c => 10 * n + (c.toNat - 48)) 0

/-- The digits of the integer part: a zero alone, or digits that do not begin with one. -/
def readWhole : List Char → Option (List Char × List Char)
  | '0' :: rest => some (['0'], rest)
  | cs =>
    if (cs.takeWhile Char.isDigit).isEmpty then none
    else some (cs.takeWhile Char.isDigit, cs.dropWhile Char.isDigit)

/-- The digits behind a point, if there are any. -/
def readFraction : List Char → Option (List Char × List Char)
  | '.' :: cs =>
    if (cs.takeWhile Char.isDigit).isEmpty then none
    else some (cs.takeWhile Char.isDigit, cs.dropWhile Char.isDigit)
  | _ => none

/-- The sign of an exponent. -/
def readSign : List Char → Bool × List Char
  | '-' :: cs => (true, cs)
  | '+' :: cs => (false, cs)
  | cs => (false, cs)

/-- The exponent, if there is one. -/
def readExponent : List Char → Option (Int × List Char)
  | e :: cs =>
    if e = 'e' || e = 'E' then
      let (negative, cs) := readSign cs
      let ds := cs.takeWhile Char.isDigit
      if ds.isEmpty then none
      else
        let n : Int := ofDigits ds
        some (if negative then -n else n, cs.dropWhile Char.isDigit)
    else none
  | [] => none

/-- Reads a number behind its sign. -/
def readUnsigned (negative : Bool) (cs : List Char) : Option (Value × List Char) := do
  let (whole, rest) ← readWhole cs
  match readFraction rest, readExponent ((readFraction rest).elim rest (·.2)) with
  | none, none =>
    if Text.maxDigits < whole.length then none
    else
      let n : Int := ofDigits whole
      return (.int (if negative then -n else n), rest)
  | fraction, exponent =>
    let places := fraction.elim [] (·.1)
    let power := exponent.elim 0 (·.1) - places.length
    let rest := exponent.elim (fraction.elim rest (·.2)) (·.2)
    return (.float (Number.floatOfDecimal negative (ofDigits (whole ++ places)) power), rest)

/-- What stands behind a word. -/
def afterWord? : List Char → List Char → Option (List Char)
  | [], cs => some cs
  | w :: ws, c :: cs => if w = c then afterWord? ws cs else none
  | _ :: _, [] => none

/-- The words that are values. -/
def wordValues : List (List Char × Value) :=
  [(['n', 'u', 'l', 'l'], .null),
   (['t', 'r', 'u', 'e'], .bool true),
   (['f', 'a', 'l', 's', 'e'], .bool false),
   (['N', 'a', 'N'], .float (0 / 0)),
   (['I', 'n', 'f', 'i', 'n', 'i', 't', 'y'], .float (1 / 0)),
   (['-', 'I', 'n', 'f', 'i', 'n', 'i', 't', 'y'], .float (-1 / 0))]

/-- Reads a word or a number. -/
def readPlain (cs : List Char) : Option (Value × List Char) :=
  match wordValues.findSome? fun (word, v) => (afterWord? word cs).map (v, ·) with
  | some result => some result
  | none =>
    match cs with
    | '-' :: rest => readUnsigned true rest
    | cs => readUnsigned false cs

mutual

/-- Reads a value that begins at the first character. -/
def readValue : Nat → List Char → Option (Value × List Char)
  | 0, _ => none
  | fuel + 1, cs =>
    match cs with
    | '"' :: rest => readText rest
    | '[' :: rest =>
      match skipBlanks rest with
      | ']' :: rest => some (.list [], rest)
      | rest => (readItems fuel rest).map fun (vs, rest) => (.list vs, rest)
    | '\x7b' :: rest =>
      match skipBlanks rest with
      | '\x7d' :: rest => some (.record [], rest)
      | rest => (readEntries fuel [] rest).map fun (es, rest) => (.record es, rest)
    | cs => readPlain cs

/-- Reads the items of a list up to its closing bracket. -/
def readItems : Nat → List Char → Option (List Value × List Char)
  | 0, _ => none
  | fuel + 1, cs => do
    let (v, rest) ← readValue fuel cs
    match skipBlanks rest with
    | ',' :: rest =>
      let (vs, rest) ← readItems fuel (skipBlanks rest)
      return (v :: vs, rest)
    | ']' :: rest => return ([v], rest)
    | _ => none

/-- Reads the entries of a record up to its closing bracket. -/
def readEntries : Nat → List (Value × Value) → List Char →
    Option (List (Value × Value) × List Char)
  | 0, _, _ => none
  | fuel + 1, es, cs =>
    match cs with
    | '"' :: rest => do
      let (key, rest) ← readText rest
      match skipBlanks rest with
      | ':' :: rest =>
        let (v, rest) ← readValue fuel (skipBlanks rest)
        let es := Value.insert key v es
        match skipBlanks rest with
        | ',' :: rest => readEntries fuel es (skipBlanks rest)
        | '\x7d' :: rest => return (es, rest)
        | _ => none
      | _ => none
    | _ => none

end

/-- Reads a text that holds one value. -/
def read (s : String) : Except Fault Value :=
  let cs := skipBlanks s.toList
  match readValue (cs.length + 1) cs with
  | some (v, rest) => if (skipBlanks rest).isEmpty then .ok v else .error .badValue
  | none => .error .badValue

end DataParallel.Json

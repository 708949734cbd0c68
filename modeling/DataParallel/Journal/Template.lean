import DataParallel.Number.Rounded
import DataParallel.Value.Reading
import DataParallel.Value.Shown

/-!
# Message templates

A template is a text with place holders, each of which begins with a percent sign and ends with
the letter of a conversion; between them stand the key of an entry, flags, a width and a
precision, all of them optional.  The place holders take the arguments one after the other, or
the entries of a record by their keys; two percent signs stand for one.  A template that does not
fit its arguments has no result.
-/

namespace DataParallel.Template

/-- A width or a precision. -/
inductive Measure where
  | given (n : Nat)
  /-- The next argument says it. -/
  | taken
  deriving DecidableEq, Repr

/-- What a place holder says. -/
structure Holder where
  key : Option (List Char)
  flags : List Char
  width : Option Measure
  precision : Option Measure
  conversion : Char

/-- The key up to the closing parenthesis that is not opened in it, `depth` being open. -/
def readKey : Nat → List Char → Option (List Char × List Char)
  | _, [] => none
  | 0, ')' :: rest => some ([], rest)
  | depth + 1, ')' :: rest => (readKey depth rest).map fun (k, rest) => (')' :: k, rest)
  | depth, '(' :: rest => (readKey (depth + 1) rest).map fun (k, rest) => ('(' :: k, rest)
  | depth, c :: rest => (readKey depth rest).map fun (k, rest) => (c :: k, rest)

/-- The key of a place holder. -/
def readOptionalKey : List Char → Option (Option (List Char) × List Char)
  | '(' :: rest => (readKey 0 rest).map fun (k, rest) => (some k, rest)
  | cs => some (none, cs)

/-- Whether a character is a flag. -/
def isFlag (c : Char) : Bool := ['-', '+', ' ', '#', '0'].contains c

/-- A width or a precision, if one stands here. -/
def readMeasure : List Char → Option Measure × List Char
  | '*' :: rest => (some .taken, rest)
  | cs =>
    let ds := cs.takeWhile Char.isDigit
    if ds.isEmpty then (none, cs)
    else
      let n := ds.foldl (fun n c => 10 * n + (c.toNat - 48)) 0
      (some (.given n), cs.dropWhile Char.isDigit)

/-- The precision of a place holder; a point without digits means none. -/
def readPrecision : List Char → Option Measure × List Char
  | '.' :: rest =>
    let (m, rest) := readMeasure rest
    (some (m.getD (.given 0)), rest)
  | cs => (none, cs)

/-- Drops one letter that says how large the number is. -/
def skipSize : List Char → List Char
  | c :: rest => if ['h', 'l', 'L'].contains c then rest else c :: rest
  | [] => []

/-- Reads a place holder behind its percent sign. -/
def readHolder (cs : List Char) : Option (Holder × List Char) := do
  let (key, cs) ← readOptionalKey cs
  let flags := cs.takeWhile isFlag
  let (width, cs) := readMeasure (cs.dropWhile isFlag)
  let (precision, cs) := readPrecision cs
  match skipSize cs with
  | [] => none
  | c :: rest => return (⟨key, flags, width, precision, c⟩, rest)

/-- A written argument in parts, between which zeros may be put. -/
structure Written where
  sign : List Char
  mark : List Char
  body : List Char

/-- Puts a written argument into a field. -/
def fill (width : Nat) (left zeros : Bool) (w : Written) : List Char :=
  let gap := width - (w.sign.length + w.mark.length + w.body.length)
  let core := w.mark ++ w.body
  if left then w.sign ++ core ++ List.replicate gap ' '
  else if zeros then w.sign ++ w.mark ++ List.replicate gap '0' ++ w.body
  else List.replicate gap ' ' ++ w.sign ++ core

/-- The sign of a number under the flags. -/
def signFor (flags : List Char) (negative : Bool) : List Char :=
  if negative then ['-']
  else if flags.contains '+' then ['+']
  else if flags.contains ' ' then [' ']
  else []

/-- ASCII letters in upper case. -/
def upperAscii (cs : List Char) : List Char := cs.map Char.toUpper

/-- A whole number in a base. -/
def writeWhole (flags : List Char) (precision : Option Nat) (conversion : Char) (n : Int) :
    Written :=
  let (base, mark) : Nat × List Char :=
    if conversion = 'x' || conversion = 'X' then (16, ['0', 'x'])
    else if conversion = 'o' then (8, ['0', 'o'])
    else (10, [])
  let ds := Nat.toDigits base n.natAbs
  let ds := List.replicate (precision.getD 0 - ds.length) '0' ++ ds
  let mark := if flags.contains '#' then mark else []
  let sign := signFor flags (n < 0)
  if conversion = 'X' then ⟨sign, upperAscii mark, upperAscii ds⟩ else ⟨sign, mark, ds⟩

/-- A float under a conversion. -/
def writeFloat (flags : List Char) (precision : Option Nat) (conversion : Char) (x : Float) :
    Written :=
  let places := precision.getD 6
  let keep := flags.contains '#'
  let (negative, body) : Bool × List Char :=
    match Number.floatValue x with
    | .nan => (false, ['n', 'a', 'n'])
    | .infinite negative => (negative, ['i', 'n', 'f'])
    | .finite negative significand exponent =>
      (negative,
        match conversion.toLower with
        | 'e' => Number.exponentialText keep significand exponent places
        | 'f' => Number.fixedText keep significand exponent places
        | _ => Number.generalText keep significand exponent places)
  ⟨signFor flags negative, [], if conversion.isUpper then upperAscii body else body⟩

/-- A shown value in ASCII. -/
def asciiOnly (cs : List Char) : List Char :=
  cs.flatMap fun c =>
    if c.toNat < 127 then [c]
    else if c.toNat < 0x100 then '\\' :: 'x' :: Text.hexDigits 2 c.toNat
    else if c.toNat < 0x10000 then '\\' :: 'u' :: Text.hexDigits 4 c.toNat
    else '\\' :: 'U' :: Text.hexDigits 8 c.toNat

/-- The whole number that a decimal conversion takes from a value. -/
def decimal? : Value → Option Int
  | .bool b => some (if b then 1 else 0)
  | .int n => some n
  | .float x => (Number.floatValue x).truncate?
  | _ => none

/-- The one character that a value stands for. -/
def character? : Value → Option (List Char)
  | .text s => if s.length = 1 then some s.toList else none
  | .broken [code] => some [Text.charOf code]
  | v =>
    match v.toIndex with
    | .ok n => if 0 ≤ n ∧ n < 0x110000 then some [Text.charOf n.toNat] else none
    | .error _ => none

/-- Writes a value under a conversion; no value fits a letter that is no conversion. -/
def convert (flags : List Char) (precision : Option Nat) (conversion : Char) (v : Value) :
    Option Written :=
  let cut (cs : List Char) : Written := ⟨[], [], precision.elim cs cs.take⟩
  if conversion = 's' then some (cut v.display.toList)
  else if conversion = 'r' then some (cut v.shown.toList)
  else if conversion = 'a' then some (cut (asciiOnly v.shown.toList))
  else if conversion = 'c' then (character? v).map fun cs => ⟨[], [], cs⟩
  else if ['d', 'i', 'u'].contains conversion then
    (decimal? v).map (writeWhole flags precision 'd')
  else if ['o', 'x', 'X'].contains conversion then
    v.toIndex.toOption.map (writeWhole flags precision conversion)
  else if ['e', 'E', 'f', 'F', 'g', 'G'].contains conversion then do
    let s ← v.scalar?
    let x ← match s with
      | .bool b => some (if b then 1 else 0)
      | .int n => Number.floatOfInt? n
      | .float x => some x
    return writeFloat flags precision conversion x
  else none

/-- Whether a conversion writes numbers, which zeros may fill up. -/
def isNumeric (conversion : Char) : Bool :=
  ['d', 'i', 'u', 'o', 'x', 'X', 'e', 'E', 'f', 'F', 'g', 'G'].contains conversion

/-- The largest width that can be asked for. -/
def maxWidth : Nat := 2 ^ 63 - 1

/-- The largest precision that can be asked for. -/
def maxPrecision : Nat := 2 ^ 31 - 1

/-- The widest field that there is room for. -/
def maxRoom : Nat := 2 ^ 32

/-- The size that a width or a precision stands for, which is limited, with the arguments that are
left. -/
def measure (limit : Nat) (m : Option Measure) (arguments : List Value) :
    Option (Option Int × List Value) :=
  match m, arguments with
  | none, vs => some (none, vs)
  | some (.given n), vs => if limit < n then none else some (some n, vs)
  | some .taken, .int n :: vs =>
    if -(limit : Int) - 1 ≤ n ∧ n ≤ limit then some (some n, vs) else none
  | some .taken, .bool b :: vs => some (some (if b then 1 else 0), vs)
  | some .taken, _ => none

/-- Writes the argument of a place holder, with the arguments that are left. -/
def apply (h : Holder) (arguments : List Value) : Option (List Char × List Value) := do
  let (width, arguments) ← measure maxWidth h.width arguments
  let (precision, arguments) ← measure maxPrecision h.precision arguments
  if width.any fun n => maxRoom < n.natAbs then failure
  match arguments with
  | [] => none
  | v :: rest =>
    let w ← convert h.flags (precision.map Int.toNat) h.conversion v
    let left := h.flags.contains '-' || width.any (· < 0)
    let zeros := h.flags.contains '0' && isNumeric h.conversion
    return (fill ((width.map Int.natAbs).getD 0) left zeros w, rest)

/-- The arguments for a place holder: the entry of its key, or what is left of them. -/
def argumentsFor (entries : Option (List (Value × Value))) (arguments : List Value) :
    Option (List Char) → Option (List Value)
  | none => some arguments
  | some key => do
    let v ← Value.find? (.ofCodes (key.map Text.codeOf)) (← entries)
    return [v]

/-- Fills in a template, whose place holders take what is left of the arguments or the entries
of a record. -/
def fillFrom (entries : Option (List (Value × Value))) :
    Nat → List Char → List Value → Option (List Char)
  | _, [], arguments => if arguments.isEmpty || entries.isSome then some [] else none
  | 0, _ :: _, _ => none
  | fuel + 1, '%' :: '%' :: rest, arguments =>
    (fillFrom entries fuel rest arguments).map ('%' :: ·)
  | fuel + 1, c :: rest, arguments =>
    if c = '%' then do
      let (h, rest) ← readHolder rest
      let (cs, arguments) ← apply h (← argumentsFor entries arguments h.key)
      let more ← fillFrom entries fuel rest arguments
      return cs ++ more
    else (fillFrom entries fuel rest arguments).map (c :: ·)

/-- The message of a template.  Without arguments it is the template as it stands; a single
record that is not empty is taken by its keys. -/
def message? (template : String) (arguments : List Value) : Option String :=
  let cs := template.toList
  match arguments with
  | [] => some template
  | [.record (e :: es)] =>
    (fillFrom (some (e :: es)) cs.length cs [.record (e :: es)]).map String.ofList
  | vs => (fillFrom none cs.length cs vs).map String.ofList

example : message? "%5d|%-5s|%05.2f" [.int 42, .text "ab", .float 3.14159] =
    some "   42|ab   |03.14" := by decide +kernel

end DataParallel.Template

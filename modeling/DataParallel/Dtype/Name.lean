import DataParallel.Dtype.Basic
import DataParallel.Text.Blank

/-!
# Names of element types

An element type is written as an order mark, a letter and a size (`<f4`), and named in many more
ways: by single letters, by letter and size, and by words.  `Dtype.ofName?` reads all of them and
`Dtype.code` writes the first form, which it reads back.
-/

namespace DataParallel

/-- The letter and the size of an element type. -/
def ElementType.code : ElementType → String
  | bool => "b1"
  | signed .one => "i1"
  | signed .two => "i2"
  | signed .four => "i4"
  | signed .eight => "i8"
  | unsigned .one => "u1"
  | unsigned .two => "u2"
  | unsigned .four => "u4"
  | unsigned .eight => "u8"
  | float .half => "f2"
  | float .single => "f4"
  | float .double => "f8"

/-- The word for an element type. -/
def ElementType.word : ElementType → String
  | bool => "bool"
  | signed .one => "int8"
  | signed .two => "int16"
  | signed .four => "int32"
  | signed .eight => "int64"
  | unsigned .one => "uint8"
  | unsigned .two => "uint16"
  | unsigned .four => "uint32"
  | unsigned .eight => "uint64"
  | float .half => "float16"
  | float .single => "float32"
  | float .double => "float64"

namespace Dtype

/-- The written form: the order mark, the letter and the size. -/
def code (d : Dtype) : String :=
  (if d.itemSize = 1 then "|" else if d.bigEndian then ">" else "<") ++ d.element.code

/-- The form in which an array is described: the word, or the code in the unusual byte order. -/
def text (d : Dtype) : String :=
  if d.bigEndian then d.code else d.element.word

/-- Element types named by one letter. -/
def ofLetter? : Char → Option ElementType
  | '?' => some .bool
  | 'b' => some (.signed .one)
  | 'h' => some (.signed .two)
  | 'i' => some (.signed .four)
  | 'l' | 'q' | 'p' | 'n' => some (.signed .eight)
  | 'B' => some (.unsigned .one)
  | 'H' => some (.unsigned .two)
  | 'I' => some (.unsigned .four)
  | 'L' | 'Q' | 'P' | 'N' => some (.unsigned .eight)
  | 'e' => some (.float .half)
  | 'f' => some (.float .single)
  | 'd' => some (.float .double)
  | _ => none

/-- Element types named by a letter and a size. -/
def ofLetterAndSize? : Char → Nat → Option ElementType
  | 'b', 1 => some .bool
  | 'i', 1 => some (.signed .one)
  | 'i', 2 => some (.signed .two)
  | 'i', 4 => some (.signed .four)
  | 'i', 8 => some (.signed .eight)
  | 'u', 1 => some (.unsigned .one)
  | 'u', 2 => some (.unsigned .two)
  | 'u', 4 => some (.unsigned .four)
  | 'u', 8 => some (.unsigned .eight)
  | 'f', 2 => some (.float .half)
  | 'f', 4 => some (.float .single)
  | 'f', 8 => some (.float .double)
  | _, _ => none

/-- The words that name an element type. -/
def words : List (String × ElementType) :=
  [("bool", .bool), ("bool_", .bool),
   ("int8", .signed .one), ("byte", .signed .one),
   ("int16", .signed .two), ("short", .signed .two),
   ("int32", .signed .four), ("intc", .signed .four),
   ("int64", .signed .eight), ("int", .signed .eight), ("int_", .signed .eight),
   ("intp", .signed .eight), ("long", .signed .eight), ("longlong", .signed .eight),
   ("uint8", .unsigned .one), ("ubyte", .unsigned .one),
   ("uint16", .unsigned .two), ("ushort", .unsigned .two),
   ("uint32", .unsigned .four), ("uintc", .unsigned .four),
   ("uint64", .unsigned .eight), ("uint", .unsigned .eight), ("uintp", .unsigned .eight),
   ("ulong", .unsigned .eight), ("ulonglong", .unsigned .eight),
   ("float16", .float .half), ("half", .float .half),
   ("float32", .float .single), ("single", .float .single),
   ("float64", .float .double), ("double", .float .double), ("float", .float .double)]

/-- Reads a size: blanks and a plus sign may stand before the digits. -/
def readSize? (s : List Char) : Option Nat :=
  let s := s.dropWhile fun c => c.isWhitespace || c == '\x0b' || c == '\x0c'
  let digits := match s with
    | '+' :: rest => rest
    | _ => s
  if digits.isEmpty || !digits.all Char.isDigit then none
  else some (digits.foldl (fun n c => 10 * n + (c.toNat - 48)) 0)

/-- Reads a letter, or a letter and a size, behind the order mark. -/
def ofBareCode? : List Char → Option ElementType
  | [] => none
  | [c] => ofLetter? c
  | c :: size => (readSize? size).bind (ofLetterAndSize? c)

/-- Reads a name of an element type.  Words take no order mark. -/
def ofName? (s : String) : Option Dtype :=
  let marked := match s.toList with
    | '>' :: rest => (ofBareCode? rest).map (ordered · true)
    | '<' :: rest => (ofBareCode? rest).map native
    | '=' :: rest => (ofBareCode? rest).map native
    | '|' :: rest => (ofBareCode? rest).map native
    | cs => (ofBareCode? cs).map native
  marked.orElse fun _ => (words.lookup s).map native

example : ofName? ">f4" = some ⟨.float .single, true⟩ := by decide +kernel

example : ofName? ">i1" = some ⟨.signed .one, false⟩ := by decide +kernel

example : ofName? "Float32" = none := by decide +kernel

theorem ofName?_code (d : Dtype) (h : d.bigEndian = true → d.itemSize ≠ 1) :
    ofName? d.code = some d := by
  rcases d with ⟨t, b⟩
  revert h
  rcases t with _ | (_ | _ | _ | _) | (_ | _ | _ | _) | (_ | _ | _) <;> rcases b with _ | _ <;>
    decide +kernel

end Dtype

end DataParallel

import DataParallel.Dtype.Name
import DataParallel.Number.Notation
import DataParallel.Tensor.Shape

/-!
# Item types

The items of an array need not be plain numbers: they may be complex numbers, long floats, texts,
points in time, blocks of bytes, references, or arrays themselves.  Such items are carried and not
calculated with, so only their written form and their size are known.  `ItemType.ofCode?` reads
the names that stand for a single type.
-/

namespace DataParallel

/-- What the items of an array are. -/
inductive ItemType where
  | number (d : Dtype)
  /-- Bytes of a known number; references to other things cannot be read from bytes. -/
  | stored (code : String) (size : Nat) (readable : Bool)
  /-- Every item is an array of a shape. -/
  | block (item : ItemType) (shape : List Nat)
  deriving Repr

namespace ItemType

/-- The size of an item in bytes. -/
def size : ItemType → Nat
  | number d => d.itemSize
  | stored _ size _ => size
  | block item shape => item.size * Shape.size shape

/-- Whether items can be read from bytes. -/
def readable : ItemType → Bool
  | number _ => true
  | stored _ _ readable => readable
  | block item _ => item.readable

/-- The number as text. -/
def sizeText (n : Nat) : String := Number.intText n

/-- Blocks of bytes. -/
def bytes (size : Nat) (readable : Bool := true) : ItemType :=
  stored ("|V" ++ sizeText size) size readable

/-- The written form. -/
def code : ItemType → String
  | number d => d.code
  | stored code _ _ => code
  | t@(block _ _) => "|V" ++ sizeText t.size

/-- Whether the size of the items is left open. -/
def isUnsized : ItemType → Bool
  | stored code size _ => size == 0 && ["|S0", "|V0", "<U0", ">U0"].contains code
  | _ => false

/-- A type with the order mark of its bytes. -/
def marked (bigEndian : Bool) (code : String) (size : Nat) : ItemType :=
  stored ((if bigEndian then ">" else "<") ++ code) size true

/-- Byte strings, texts of four bytes a character, or blocks of bytes, of a given length. -/
def ofLength? (bigEndian : Bool) (letter : Char) (n : Nat) : Option ItemType :=
  match letter with
  | 'S' | 'a' => some (stored ("|S" ++ sizeText n) n true)
  | 'U' => some (marked bigEndian ("U" ++ sizeText n) (4 * n))
  | 'V' => some (bytes n)
  | _ => none

/-- References. -/
def reference : ItemType := stored "|O" 8 false

/-- Types named by one letter. -/
def ofLetter? (bigEndian : Bool) : Char → Option ItemType
  | 'F' => some (marked bigEndian "c8" 8)
  | 'D' => some (marked bigEndian "c16" 16)
  | 'G' => some (marked bigEndian "c32" 32)
  | 'g' => some (marked bigEndian "f16" 16)
  | 'c' => some (stored "|S1" 1 true)
  | 'O' => some reference
  | 'M' => some (marked bigEndian "M8" 8)
  | 'm' => some (marked bigEndian "m8" 8)
  | 'S' => ofLength? bigEndian 'S' 0
  | 'U' => ofLength? bigEndian 'U' 0
  | 'V' => ofLength? bigEndian 'V' 0
  | _ => none

/-- Types named by a letter and a size. -/
def ofLetterAndSize? (bigEndian : Bool) : Char → Nat → Option ItemType
  | 'c', 8 => some (marked bigEndian "c8" 8)
  | 'c', 16 => some (marked bigEndian "c16" 16)
  | 'c', 32 => some (marked bigEndian "c32" 32)
  | 'f', 16 => some (marked bigEndian "f16" 16)
  | 'O', 4 => some reference
  | 'O', 8 => some reference
  | letter, n => ofLength? bigEndian letter n

/-- The units of time. -/
def timeUnits : List String :=
  ["Y", "M", "W", "D", "h", "m", "s", "ms", "us", "ns", "ps", "fs", "as"]

/-- The unit of time between brackets, with a count in front of it; no unit is allowed as well. -/
def readTimeUnit? (cs : List Char) : Option String :=
  match cs with
  | [] => some ""
  | '[' :: rest =>
    let inner := rest.takeWhile (· != ']')
    let digits := inner.takeWhile Char.isDigit
    let count := digits.foldl (fun n c => 10 * n + (c.toNat - 48)) 0
    let unit := String.ofList (inner.dropWhile Char.isDigit)
    if rest.dropWhile (· != ']') != [']'] || (count == 0 && !digits.isEmpty) then none
    else if unit == "generic" && digits.isEmpty then some ""
    else if timeUnits.contains unit then
      some ("[" ++ (if count ≤ 1 then "" else sizeText count) ++ unit ++ "]")
    else none
  | _ => none

/-- The beginnings of the names of points in time and of spans, with the letters of the codes. -/
def timeNames : List (String × String) :=
  [("M8", "M8"), ("m8", "m8"), ("datetime64", "M8"), ("timedelta64", "m8")]

/-- Points in time and spans of time. -/
def ofTime? (bigEndian : Bool) (cs : List Char) : Option ItemType :=
  timeNames.findSome? fun (name, code) =>
    if name.toList.isPrefixOf cs then
      (readTimeUnit? (cs.drop name.length)).map fun unit => marked bigEndian (code ++ unit) 8
    else none

/-- The words that name a type. -/
def words : List (String × ItemType) :=
  [("complex64", marked false "c8" 8), ("csingle", marked false "c8" 8),
   ("complex128", marked false "c16" 16), ("cdouble", marked false "c16" 16),
   ("complex", marked false "c16" 16),
   ("complex256", marked false "c32" 32), ("clongdouble", marked false "c32" 32),
   ("float128", marked false "f16" 16), ("longdouble", marked false "f16" 16),
   ("str", marked false "U0" 0), ("str_", marked false "U0" 0), ("unicode", marked false "U0" 0),
   ("bytes", stored "|S0" 0 true), ("bytes_", stored "|S0" 0 true), ("a", stored "|S0" 0 true),
   ("void", bytes 0), ("object", reference), ("object_", reference)]

/-- Reads a name behind the order mark. -/
def ofBareCode? (bigEndian : Bool) (cs : List Char) : Option ItemType :=
  (ofTime? bigEndian cs).orElse fun _ =>
    match cs with
    | [] => none
    | [c] => ofLetter? bigEndian c
    | c :: size => (Dtype.readSize? size).bind (ofLetterAndSize? bigEndian c)

/-- Reads the name of a single type. -/
def ofCode? (cs : List Char) : Option ItemType :=
  let s := String.ofList cs
  ((Dtype.ofName? s).map number).orElse fun _ =>
    let marked := match cs with
      | '>' :: rest => ofBareCode? true rest
      | '<' :: rest => ofBareCode? false rest
      | '=' :: rest => ofBareCode? false rest
      | '|' :: rest => ofBareCode? false rest
      | cs => ofBareCode? false cs
    marked.orElse fun _ => words.lookup s

/-- The items of the innermost blocks, with the number of them in one item. -/
def innermost : ItemType → ItemType × Nat
  | block item shape => (item.innermost.1, item.innermost.2 * Shape.size shape)
  | t => (t, 1)

end ItemType

end DataParallel

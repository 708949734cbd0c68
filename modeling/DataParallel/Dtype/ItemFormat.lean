import DataParallel.Dtype.ItemType
import DataParallel.Fault
import DataParallel.Value.Reading

/-!
# Item formats

A name of an item type may be a list of formats between commas, each of them a type with a count
or a shape in front of it: `2f4` are blocks of two four-byte floats, and `f4,i4` are items with
two fields.  Item types also come as loose values.
-/

namespace DataParallel

/-- One format of a list. -/
structure ItemFormat where
  /-- The marks of the byte order before and behind the count. -/
  orders : List Char × List Char
  count : List Char
  name : List Char

/-- How often a type is repeated in one item. -/
inductive Repetition where
  | times (n : Nat)
  | shape (dims : List Nat)

namespace ItemFormat

/-- Whether a character marks a byte order. -/
def isOrder (c : Char) : Bool := ['<', '>', '|', '='].contains c

/-- Whether a comma stands outside brackets, `depth` of which are open. -/
def hasComma : Int → List Char → Bool
  | _, [] => false
  | depth, c :: cs =>
    if c = ',' && depth == 0 then true
    else hasComma (if c = '[' then depth + 1 else if c = ']' then depth - 1 else depth) cs

/-- Whether a name begins with a count or with an empty shape. -/
def hasCount : List Char → Bool
  | '(' :: ')' :: _ => true
  | c :: _ => c.isDigit
  | [] => false

/-- Whether a name is a list of formats. -/
def isList (cs : List Char) : Bool :=
  let unmarked := if (cs.take 1).all isOrder then cs.drop 1 else []
  hasCount cs || (hasCount unmarked && (3 < cs.length || unmarked.head? != some '(')) ||
    hasComma 0 (cs.drop 1)

/-- The first character if it is in a class, and the rest. -/
def takeOne (p : Char → Bool) : List Char → List Char × List Char
  | c :: cs => if p c then ([c], cs) else ([], c :: cs)
  | [] => ([], [])

/-- A unit between brackets, if one stands here as a whole. -/
def takeUnit : List Char → List Char × List Char
  | '[' :: cs =>
    let inner := cs.takeWhile fun c => c.isAlphanum || c = ',' || c = '.'
    match cs.drop inner.length with
    | ']' :: rest => ('[' :: inner ++ [']'], rest)
    | _ => ([], '[' :: cs)
  | cs => ([], cs)

/-- Reads one format, every part of which may be missing. -/
def read (cs : List Char) : ItemFormat × List Char :=
  let (before, cs) := takeOne isOrder cs
  let (blanks, cs) := cs.span (· = ' ')
  let (opening, cs) := takeOne (· = '(') cs
  let (digits, cs) := cs.span fun c => c = ' ' || c = ',' || c.isDigit
  let (closing, cs) := takeOne (· = ')') cs
  let (more, cs) := cs.span (· = ' ')
  let (behind, cs) := takeOne isOrder cs
  let (letters, cs) := cs.span fun c => c.isAlphanum || c = '.' || c = '?'
  let (unit, cs) := takeUnit cs
  (⟨(before, behind), blanks ++ opening ++ digits ++ closing ++ more, letters ++ unit⟩, cs)

/-- What stands behind the comma that separates two formats. -/
def afterComma? (cs : List Char) : Option (List Char) :=
  match cs.dropWhile Text.isBlank with
  | ',' :: rest => some (rest.dropWhile Text.isBlank)
  | _ => none

/-- Reads a list of formats; a comma makes it one, also at the end. -/
def readAll : Nat → List Char → Except Fault (List ItemFormat × Bool)
  | 0, _ => .ok ([], false)
  | fuel + 1, cs =>
    if cs.isEmpty then .ok ([], false)
    else
      let (format, rest) := read cs
      if rest.all Text.isBlank then .ok ([format], false)
      else
        match afterComma? rest with
        | none => .error .badValue
        | some rest => do return (format :: (← readAll fuel rest).1, true)

/-- The byte order of a format as a mark; the usual order has none. -/
def order (f : ItemFormat) : Except Fault (List Char) :=
  let usual (mark : List Char) : List Char := if mark = ['='] then ['<'] else mark
  let plain (mark : List Char) : List Char := if mark = ['>'] then mark else []
  match f.orders with
  | (mark, []) => .ok (plain mark)
  | ([], mark) => .ok (plain mark)
  | (a, b) => if usual a = usual b then .ok (plain (usual a)) else .error .badValue

/-- A number without leading zeros between optional blanks. -/
def readCount? (cs : List Char) : Option Nat :=
  let ds := Text.trim (· = ' ') cs
  if ds.isEmpty || !ds.all Char.isDigit then none
  else if ds.head? = some '0' && !ds.all (· = '0') then none
  else some (ds.foldl (fun n c => 10 * n + (c.toNat - 48)) 0)

/-- The numbers between commas; the last comma may be behind the last number. -/
def readCounts? : List (List Char) → Option (List Nat)
  | [] => some []
  | [last] => if last.all (· = ' ') then some [] else (readCount? last).map ([·])
  | c :: cs => do return (← readCount? c) :: (← readCounts? cs)

/-- Cuts characters at commas. -/
def cutAtCommas : List Char → List (List Char)
  | [] => [[]]
  | c :: cs =>
    match c == ',', cutAtCommas cs with
    | true, pieces => [] :: pieces
    | false, piece :: pieces => (c :: piece) :: pieces
    | false, [] => [[c]]

/-- A number, or numbers between commas. -/
def readBare? (cs : List Char) : Option Repetition :=
  match cutAtCommas cs with
  | [one] => (readCount? one).map .times
  | pieces => (readCounts? pieces).map .shape

/-- What the count of a format says. -/
def repetition? (cs : List Char) : Option Repetition :=
  match Text.trim (· = ' ') cs with
  | '(' :: rest =>
    match rest.reverse with
    | ')' :: inner =>
      if inner.all (· = ' ') then some (.shape []) else readBare? inner.reverse
    | _ => none
  | cs => readBare? cs

/-- The largest size of a block and of each of its dimensions. -/
def maxBlock : Nat := 2 ^ 31 - 1

/-- A type repeated in one item.  The count of items without a size is their length. -/
def repeated (t : ItemType) (r : Repetition) : Except Fault ItemType :=
  let block (dims : List Nat) : Except Fault ItemType :=
    if dims.any (maxBlock < ·) || maxBlock < t.size * Shape.size dims then .error .badValue
    else .ok (.block t dims)
  match r with
  | .times n =>
    if t.isUnsized then
      ((t.code.toList[1]?).bind fun letter => ItemType.ofLength? (t.code.startsWith ">") letter n)
        |>.elim (.error .badValue) .ok
    else if n = 1 then .ok t
    else block [n]
  | .shape dims => if t.isUnsized then .error .badValue else if dims = [] then .ok t else block dims

/-- The type with a name. -/
def single (cs : List Char) : Except Fault ItemType :=
  (ItemType.ofCode? cs).elim (.error .wrongType) .ok

/-- The type of one format whose name and repetition are known. -/
def resolve : List Char × Option Repetition → Except Fault ItemType
  | (name, none) => single name
  | (name, some r) => do repeated (← single name) r

/-- The name and the repetition of a format. -/
def parts (f : ItemFormat) : Except Fault (List Char × Option Repetition) := do
  let name := (← f.order) ++ f.name
  if f.count.isEmpty then return (name, none)
  else
    match repetition? f.count with
    | some r => return (name, some r)
    | none => throw .malformed

/-- The type of items with fields one behind the other. -/
def fields (ts : List ItemType) : ItemType :=
  .bytes (ts.foldl (fun size t => size + t.size) 0) (ts.all ItemType.readable)

end ItemFormat

namespace ItemType

/-- Reads a name of an item type. -/
def ofName (s : String) : Except Fault ItemType := do
  let cs := s.toList
  if !ItemFormat.isList cs then ItemFormat.single cs
  else
    let (formats, isList) ← ItemFormat.readAll cs.length cs
    let named ← formats.mapM ItemFormat.parts
    if !isList then (named.head?.map ItemFormat.resolve).getD (.error .wrongType)
    else
      let named := if named.getLast?.any (fun p => p.1.isEmpty && p.2.isNone)
        then named.dropLast else named
      return ItemFormat.fields (← named.mapM ItemFormat.resolve)

/-- The item type of a record: either its fields stand under their names, where nothing but an
empty record is taken, or there are lists of names and of types. -/
def ofEntries (entries : List (Value × Value)) : Except Fault ItemType := do
  match Value.find? (.text "names") entries, Value.find? (.text "formats") entries, entries with
  | some names, some formats, _ => do
    let names ← names.items
    let formats ← formats.items
    if formats.length < names.length then throw .badValue
    let ts ← (formats.take names.length).mapM fun v =>
      match v with
      | .text s => ofName s
      | _ => throw .wrongType
    return ItemFormat.fields ts
  | _, _, [] => return bytes 0
  | _, _, (_, v) :: _ =>
    match v.items with
    | .ok _ => throw .badValue
    | .error _ => throw .wrongType

/-- The item type that a value asks for; none asks for eight-byte floats. -/
def ofValue : Value → Except Fault ItemType
  | .null => .ok (.number .float64)
  | .text s => ofName s
  | .broken _ => .error .brokenText
  | .bytes bs => (String.fromUTF8? ⟨bs.toArray⟩).elim (.error .wrongType) ofName
  | .list [] => .ok (bytes 0)
  | .record entries => ofEntries entries
  | _ => .error .wrongType

end ItemType

/-- The element type that a value asks for. -/
def Dtype.ofValue (v : Value) : Except Fault Dtype := do
  match ← ItemType.ofValue v with
  | .number d => return d
  | _ => throw .wrongType

end DataParallel

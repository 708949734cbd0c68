import DataParallel.Text.Quoted
import DataParallel.Value.Basic

/-!
# Values in messages

`Value.shown` is the form in which a message names a value, with texts in quotes; `Value.display`
is the same without the quotes around a value that is itself a text.
-/

namespace DataParallel

/-- Joins texts with commas, between two brackets. -/
def enclosed (opening closing : String) (parts : List String) : String :=
  opening ++ String.intercalate ", " parts ++ closing

/-- A tuple of shown parts; a tuple of one part has a comma behind it. -/
def tupleText : List String → String
  | [part] => "(" ++ part ++ ",)"
  | parts => enclosed "(" ")" parts

namespace Value

mutual

/-- A value as messages name it. -/
def shown : Value → String
  | null => "None"
  | bool b => if b then "True" else "False"
  | int n => Number.intText n
  | float x => Number.floatText x
  | text s => Text.quoted s
  | broken codes => Text.quotedCodes codes
  | bytes bs => Text.quotedBytes bs
  | list items => enclosed "[" "]" (shownItems items)
  | tuple items => tupleText (shownItems items)
  | record entries => enclosed "\x7b" "\x7d" (shownEntries entries)
  | array rows => "array(" ++ shown rows ++ ")"
  | extension code data =>
    "ExtType(code=" ++ Number.intText code ++ ", data=" ++ Text.quotedBytes data ++ ")"
  | timestamp seconds nanoseconds =>
    "Timestamp(seconds=" ++ Number.intText seconds ++ ", nanoseconds=" ++
      Number.intText nanoseconds ++ ")"
termination_by structural v => v

/-- The items of a sequence as messages name them. -/
def shownItems : List Value → List String
  | [] => []
  | v :: vs => shown v :: shownItems vs
termination_by structural vs => vs

/-- The entries of a record as messages name them. -/
def shownEntries : List (Value × Value) → List String
  | [] => []
  | (k, v) :: rest => (shown k ++ ": " ++ shown v) :: shownEntries rest
termination_by structural entries => entries

end

/-- A value as the text of a message, without quotes of its own. -/
def display : Value → String
  | text s => s
  | broken codes => Text.ofCodes codes
  | v => shown v

end Value

end DataParallel

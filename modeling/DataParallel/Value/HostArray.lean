import DataParallel.Tensor.Literal
import DataParallel.Value.Shown

/-!
# Host arrays

A nested list becomes a host array if its rows have a common shape.  Its members take the common
form of numbers or of texts; texts lose the zeros at their ends.  Members without a common form
are kept as they are.
-/

namespace DataParallel.Value

mutual

/-- A nested list whose lists may be tuples or host arrays, as a list of lists. -/
def plainRows : Value → Value
  | list vs => list (plainRowsOf vs)
  | tuple vs => list (plainRowsOf vs)
  | array rows => plainRows rows
  | v => v
termination_by structural v => v

/-- Several nested lists. -/
def plainRowsOf : List Value → List Value
  | [] => []
  | v :: vs => plainRows v :: plainRowsOf vs
termination_by structural vs => vs

end

mutual

/-- Applies a function to the members of nested lists. -/
def mapMembers (f : Value → Value) : Value → Value
  | list vs => list (mapMembersOf f vs)
  | v => f v
termination_by structural v => v

/-- Applies a function to the members of several nested lists. -/
def mapMembersOf (f : Value → Value) : List Value → List Value
  | [] => []
  | v :: vs => mapMembers f v :: mapMembersOf f vs
termination_by structural vs => vs

end

/-- A text without the zeros at its end. -/
def withoutTrailingZeros : Value → Value
  | text s => text (String.ofList (Text.dropRight (· = '\x00') s.toList))
  | broken codes => ofCodes (codes.reverse.dropWhile (· = 0)).reverse
  | v => v

/-- Whether a value is a text. -/
def isText (v : Value) : Bool := v.text?.isSome

/-- A member as an item of an array of texts, which shows numbers as messages do. -/
def asTextItem (v : Value) : Value :=
  withoutTrailingZeros (if v.isText then v else text v.display)

/-- A member as a number of an element type. -/
def asNumber (t : ElementType) (v : Value) : Value :=
  match Tensor.memberCell t v with
  | .ok x => Tensor.cellNumber t x
  | .error _ => v

/-- The common form of members. -/
def commonForm (members : List Value) : Value → Value :=
  let numbers := members.filter fun v => !v.isText
  match (⟨[], numbers⟩ : Literal).commonType? with
  | .ok (some t) => if numbers.length = members.length then asNumber t else asTextItem
  | _ => id

/-- The host array with given rows. -/
def ofRows (rows : Value) : Except Fault Value := do
  let rows := rows.plainRows
  let shape ← Tensor.literalShape rows
  if Shape.maxRank < shape.length then throw .badValue
  return array (rows.mapMembers (commonForm (Tensor.leaves rows)))

end DataParallel.Value

import DataParallel.Config
import DataParallel.Parameter.Basic

/-!
# Embeddings

An embedding gives every item of a collection a row of a weight.  The rows are numbered in the
order of the items, behind a row for unknown items if there is one; of a repeated item the last
row counts.  Items are looked up one by one, or in nested sequences, which give nested indices.
-/

namespace DataParallel

/-- The settings of an embedding. -/
structure EmbeddingConfig where
  items : Value
  size : Value
  useDefault : Value
  dtype : Value

/-- The settings before any of them is given. -/
def EmbeddingConfig.usual : EmbeddingConfig := ⟨.null, .int 0, .bool true, .text "float32"⟩

/-- An embedding with its weight. -/
structure Embedding where
  size : Value
  useDefault : Value
  dtype : ItemType
  rows : List (Value × Nat)
  rowCount : Nat
  weight : Parameter

namespace EmbeddingConfig

/-- Refuses settings that do not describe an embedding, and gives the element type.  A value that
cannot name a type has a message of its own; a name whose parts do not fit together has none. -/
def validate (c : EmbeddingConfig) : Except Fault ItemType := do
  match c.items with
  | .null => throw .noItems
  | _ => pure ()
  match c.size.scalar? with
  | none => throw .wrongType
  | some s => if s.isNegative || s.isZero then throw .badEmbeddingSize
  match ItemType.ofValue c.dtype with
  | .ok t => return t
  | .error .wrongType => throw (.unknownElementType c.dtype)
  | .error fault => throw fault

/-- The row behind which the items are numbered. -/
def firstRow (c : EmbeddingConfig) : Nat := if c.useDefault.truthy then 1 else 0

/-- Numbers items from a row on. -/
def numbered : Nat → List Value → List (Value × Nat) → Except Fault (List (Value × Nat))
  | _, [], rows => .ok rows
  | row, item :: rest, rows =>
    if item.isKey then numbered (row + 1) rest (Value.insert item row rows) else .error .wrongType

/-- The embedding that the settings describe; its weight has the given identity. -/
def build (c : EmbeddingConfig) (weightId : String) : Except Fault Embedding := do
  let dtype ← c.validate
  let items ← c.items.items
  let rows ← numbered c.firstRow items []
  return {
    size := c.size
    useDefault := c.useDefault
    dtype := dtype
    rows := rows
    rowCount := c.firstRow + items.length
    weight := Parameter.new weightId (.text "embedding") }

end EmbeddingConfig

namespace Embedding

instance : Inhabited Embedding :=
  ⟨⟨.int 1, .bool true, .number .float32, [], 1, Parameter.new "" (.text "embedding")⟩⟩

/-- The row for items that are not known. -/
def defaultRow : Nat := 0

/-- The row of an item, if it is known. -/
def row? (e : Embedding) (item : Value) : Option Nat :=
  if item.isKey then Value.find? item e.rows else none

/-- The row of an item that is not known. -/
def unknownRow (e : Embedding) (item : Value) : Except Fault Value :=
  if e.useDefault.truthy then .ok (.int defaultRow) else .error (.itemNotFound item)

mutual

/-- The index of an item, or the nested indices of a nested sequence.  A tuple that is itself an
item is one. -/
def embed (e : Embedding) : Value → Except Fault Value
  | .array rows => embed e rows
  | .list vs => do return .list (← embedAll e vs)
  | .tuple vs =>
    match e.row? (.tuple vs) with
    | some row => .ok (.int row)
    | none => do return .list (← embedAll e vs)
  | item =>
    match e.row? item with
    | some row => .ok (.int row)
    | none => e.unknownRow item
termination_by structural v => v

/-- The indices of the members of a sequence. -/
def embedAll (e : Embedding) : List Value → Except Fault (List Value)
  | [] => .ok []
  | v :: vs => do
    let index ← embed e v
    return index :: (← embedAll e vs)
termination_by structural vs => vs

end

/-- The shape of a parameter; there is one parameter. -/
def parameterShape (e : Embedding) (name : Value) : Except Fault (List Value) :=
  if name.same (.text "embedding") then .ok [.int e.rowCount, e.size]
  else .error (.unknownParameterName name)

/-- The shape of what a lookup of indices of a shape gives. -/
def outputShape (e : Embedding) (shape : List Value) : List Value := shape ++ [e.size]

/-- A step on the weight. -/
def onWeight {α : Type} (step : Step (Parameter × Host) α) : Step (Embedding × Host) α :=
  step.within (fun (e, h) => (e.weight, h)) fun (p, h) (e, _) => ({ e with weight := p }, h)

/-- Makes the array of the weight, with a strategy and a scale of its own if they are given. -/
def setUp (m : ManagerId) (strategy scale : Value := .null) : Step (Embedding × Host) Unit := do
  let (e, _) ← get
  let chosen (v usual : Value) : Value :=
    match v with
    | .null => usual
    | v => v
  modify fun (e, h) =>
    ({ e with
        weight.strategy := chosen strategy e.weight.strategy
        weight.scale := chosen scale e.weight.scale }, h)
  onWeight (Parameter.setUp m (.tuple [.int e.rowCount, e.size]) (.text e.dtype.code))

/-- Makes the array of the weight with the strategy and the scale of a configuration. -/
def setUpFrom (m : ManagerId) (c : Config) : Step (Embedding × Host) Unit :=
  setUp m c.initStrategy c.initScale

/-- The bytes of a saved embedding: a version and the saved weight. -/
def save (e : Embedding) (pool : Pool) : Except Fault (List UInt8) := do
  return Parameter.version :: (← e.weight.save pool)

/-- Loads a saved embedding. -/
def load (m : ManagerId) : Step (Stream × Embedding × Host) Unit := do
  let v ← Step.first (Parameter.readByte .embeddingStreamEnd)
  if v ≠ Parameter.version then throw (.unknownVersion v.toNat)
  (Parameter.load m).within (fun (bs, e, h) => (bs, e.weight, h))
    fun (bs, p, h) (_, e, _) => (bs, { e with weight := p }, h)

end Embedding

end DataParallel

import DataParallel.Host
import DataParallel.Record.Reader

/-!
# Parameters

A parameter is a named weight of a layer.  Its array is made on the device of a manager when the
parameter is set up, given to it, or loaded from a stream; the identity of the parameter is fixed
from the beginning.  A saved parameter is a version, a mark whether there is an array, and the
record of the array.
-/

namespace DataParallel

/-- A named weight. -/
structure Parameter where
  id : String
  /-- Usually a text, but any value will do. -/
  name : Value
  requiresGradient : Value
  strategy : Value
  scale : Value
  array : Option ArrayId
  deriving Inhabited

namespace Parameter

/-- A parameter without an array. -/
def new (id : String) (name : Value) (requiresGradient : Value := .bool true)
    (strategy : Value := .text "normal") (scale : Value := .float 0.01) : Parameter :=
  ⟨id, name, requiresGradient, strategy, scale, none⟩

/-- Whether there is an array. -/
def isSetUp (p : Parameter) : Bool := p.array.isSome

/-- The array, which must be there. -/
def value (p : Parameter) : Except Fault ArrayId :=
  p.array.elim (.error (.uninitialized p.name)) .ok

/-- Gives the parameter a new array of a manager, with a gradient if it requires one. -/
def adopt (m : ManagerId) (c : Contents) : Step (Parameter × Host) Unit := do
  let a ← Step.second (Host.onPool (Pool.create m (.ok c)))
  if (← get).1.requiresGradient.truthy then
    Step.second (Host.onPool (Pool.attachGradient a))
  modify fun (p, h) => ({ p with array := some a }, h)

/-- Makes the array of a parameter that has none. -/
def setUp (m : ManagerId) (shape : Value) (dtype : Value := .text "float32") :
    Step (Parameter × Host) Unit := do
  let (p, _) ← get
  if p.isSetUp then return
  let t ← Step.second (Host.onDraws (Strategy.initialFor shape p.strategy p.scale dtype))
  adopt m t

/-- Gives an array to a parameter that has none. -/
def give (p : Parameter) (a : ArrayId) : Except Fault Parameter :=
  if p.isSetUp then .error (.alreadyInitialized p.name) else .ok { p with array := some a }

/-- The version of saved parameters. -/
def version : UInt8 := 1

/-- The bytes of a saved parameter. -/
def save (p : Parameter) (pool : Pool) : Except Fault (List UInt8) :=
  match p.array with
  | none => .ok [version, 0]
  | some a =>
    match pool.items? a with
    | none => .error .arrayClosed
    | some c => do return version :: 1 :: (← Record.writeBody p.name c.body)

/-- Takes one byte off a stream. -/
def readByte (atEnd : Fault) : Step Stream UInt8 :=
  .make fun
    | [] => (.error atEnd, [])
    | b :: bs => (.ok b, bs)

/-- Takes the contents that were read, whatever their items are: into the array if it has their
shape, and otherwise as a new array. -/
def accept (m : ManagerId) (c : Contents) : Step (Parameter × Host) Unit := do
  match (← get).1.array with
  | none => adopt m c
  | some a =>
    let old ← Step.second (Host.onPool (Pool.items a))
    if old.shape = c.shape then Step.second (Host.overwrite a c)
    else
      modify fun (p, h) => ({ p with array := none }, h)
      adopt m c

/-- Loads a saved parameter of the same name. -/
def load (m : ManagerId) : Step (Stream × Parameter × Host) Unit := do
  let v ← Step.first (readByte .parameterStreamEnd)
  if v ≠ version then throw (.unknownVersion v.toNat)
  if (← Step.first (readByte .parameterStreamEnd)) = 0 then return
  let (name, c) ← Step.first Record.readContents
  let (_, p, _) ← get
  if !name.same p.name then throw (.wrongName name p.name)
  Step.second (accept m c)

/-- Closes the array and drops it. -/
def close : Step (Parameter × Host) Unit := do
  match (← get).1.array with
  | none => return
  | some a =>
    Step.second (Host.onPool (Pool.close a))
    modify fun (p, h) => ({ p with array := none }, h)

/-- A parameter as text. -/
def text (p : Parameter) : String :=
  "Parameter(name=" ++ p.name.shown ++ ", id=" ++ p.id ++ ", requires_gradient=" ++
    p.requiresGradient.display ++ ")"

end Parameter

end DataParallel

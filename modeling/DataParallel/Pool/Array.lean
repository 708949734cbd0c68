import DataParallel.Pool.Basic

/-!
# Working with arrays

Copying to devices, gradients, reshaping, gathering, overwriting, and the bond between an array
and its manager.  Except for closing and detaching, nothing can be done with a closed array.  A
change of managers ends the old bond before the new manager is asked, which may refuse.

Where numbers are needed, an array of other items is refused by the fault `notNumbers`: what would
be calculated with such items is left open.  A loaded record is written into every array of its
shape, whatever the items are, and then the conversion of the items is left open.
-/

namespace DataParallel.Pool

/-- What an array has, which must be open. -/
def held (a : ArrayId) : Step Pool Holding := do
  match ((← get).array a).holding with
  | some h => return h
  | none => throw .arrayClosed

/-- What an array holds. -/
def items (a : ArrayId) : Step Pool Contents := do
  let h ← held a
  return ((← get).buffer h.buffer).contents.withShape h.shape

/-- The contents of an array of numbers. -/
def read (a : ArrayId) : Step Pool Tensor := do
  match ← items a with
  | .tensor t => return t
  | .carried _ => throw .notNumbers

/-- A new array with the given contents and no manager, on the first processor if the device is
not set. -/
def place (device : Device) (c : Contents) (order : MemoryOrder := .rowMajor) :
    Step Pool ArrayId :=
  modifyGet fun p => p.addOwning (device.or .cpu) ⟨c, order⟩ c.shape

/-- Gives an array a new gradient of zeros. -/
def attachGradient (a : ArrayId) : Step Pool Unit := do
  let h ← held a
  modify fun p =>
    let source := p.buffer h.buffer
    let (g, p) :=
      p.addOwning (p.array a).device ⟨source.contents.zeros, source.order.fresh⟩ h.shape
    p.updateArray a fun s => { s with holding := some { h with gradient := some g } }

/-- A copy of an array on a device, with a gradient of its own if asked for. -/
def toDevice (a : ArrayId) (device : Device) (track : Bool := false) : Step Pool ArrayId := do
  let copy ← place device (← items a)
  if track then attachGradient copy
  return copy

/-- The gradient of an array. -/
def gradient (a : ArrayId) : Step Pool ArrayId := do
  match (← held a).gradient with
  | some g => return g
  | none => throw .noGradient

/-- The same elements in another shape: in the same buffer if the order of the elements allows
it, and otherwise in a copy. -/
def reshape (a : ArrayId) (dims : List Int) : Step Pool ArrayId := do
  let h ← held a
  let c ← Step.ofExcept ((← items a).reshape dims)
  modifyGet fun p =>
    let source := p.buffer h.buffer
    let device := (p.array a).device
    if source.order.admits source.contents.shape c.shape then
      p.addArray ⟨device, none, some ⟨h.buffer, c.shape, none⟩⟩
    else p.addOwning device ⟨c, .rowMajor⟩ c.shape

/-- The rows of an array that another array names. -/
def gather (a indices : ArrayId) : Step Pool ArrayId := do
  let c ← items a
  let rows ← Step.ofExcept (c.take (← read indices))
  place ((← get).array a).device rows

/-- Overwrites the contents of an array of numbers, converted to its element type.  The shapes must
be equal. -/
def set (a : ArrayId) (values : Tensor) : Step Pool Unit := do
  let h ← held a
  if values.shape ≠ h.shape then throw (.shapeMismatch h.shape values.shape)
  if ((← get).buffer h.buffer).contents.tensor?.isNone then throw .notNumbers
  modify fun p => p.updateBuffer h.buffer fun b =>
    { b with contents := b.contents.withNumbers values }

/-- Overwrites the contents of an array with those of another one. -/
def setFrom (a source : ArrayId) : Step Pool Unit := do
  let _ ← held a
  set a (← read source)

/-- Overwrites what an array holds with anything of its shape.  A conversion that fails may have
written a part. -/
def overwrite (conversion : Conversion) (a : ArrayId) (values : Contents) : Step Pool Unit := do
  let h ← held a
  if values.shape ≠ h.shape then throw (.shapeMismatch h.shape values.shape)
  let b := (← get).buffer h.buffer
  let (written, result) := conversion.write b.order (b.contents.withShape h.shape) values
  modify fun p => p.updateBuffer h.buffer fun b =>
    { b with contents := written.withShape b.contents.shape }
  Step.ofExcept result

/-- Takes an array off the list of a manager. -/
def release (p : Pool) (m : ManagerId) (a : ArrayId) : Pool :=
  p.updateManager m fun s => { s with resources := s.resources.erase a }

/-- Ends the bond between an array and its manager. -/
def detached (p : Pool) (a : ArrayId) : Pool :=
  match (p.array a).manager with
  | some m => (p.release m a).updateArray a fun s => { s with manager := none }
  | none => p

/-- Ends the bond between an array and its manager. -/
def detach (a : ArrayId) : Step Pool Unit := modify (·.detached a)

/-- Puts an array on the list of a manager, which must be open. -/
def enlist (m : ManagerId) (a : ArrayId) : Step Pool Unit := do
  if !((← get).manager m).isOpen then throw .managerClosed
  modify fun p => p.updateManager m fun s =>
    { s with resources := if a ∈ s.resources then s.resources else s.resources ++ [a] }

/-- Binds an array to a manager. -/
def attach (a : ArrayId) (m : ManagerId) : Step Pool Unit := do
  let _ ← held a
  match ((← get).array a).manager with
  | some old =>
    if old = m then return
    modify fun p => p.release old a
  | none => pure ()
  enlist m a
  modify fun p => p.updateArray a fun s => { s with manager := some m }

/-- Closes an array, which ends its bond and drops its contents and its gradient. -/
def closed (p : Pool) (a : ArrayId) : Pool :=
  if p.isClosed a then p
  else (p.detached a).updateArray a fun s => { s with holding := none }

/-- Closes an array. -/
def close (a : ArrayId) : Step Pool Unit := modify (·.closed a)

/-- An array as text. -/
def arrayText (p : Pool) (a : ArrayId) : String :=
  match p.items? a with
  | none => "NumpyNDArray(<closed>)"
  | some c =>
    "NumpyNDArray(shape=" ++ Fault.shapeText c.shape ++ ", dtype=" ++ c.typeText ++
      ", device=" ++ (p.array a).device.text ++ ")"

end DataParallel.Pool

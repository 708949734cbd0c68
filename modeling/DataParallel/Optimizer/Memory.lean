import DataParallel.Optimizer.Update

/-!
# Optimizers in memory

State arrays lie in memory.  An optimizer overwrites its own where they lie, so whoever held one of
its addresses would see every later update.  A snapshot therefore has copies of the arrays, and an
optimizer that is restored from it has copies of those: the same snapshot can be restored again.

A bench has optimizers and snapshots of them, side by side in one memory.
-/

namespace DataParallel

/-- Where an array lies in memory. -/
structure Address where
  index : Nat
  deriving DecidableEq, Repr, Inhabited

/-- Arrays by their addresses. -/
structure Memory where
  arrays : Array Tensor
  deriving Inhabited

namespace Memory

/-- The array at an address. -/
def read (mem : Memory) (a : Address) : Tensor := mem.arrays.getD a.index default

/-- Overwrites the array at an address. -/
def write (mem : Memory) (a : Address) (t : Tensor) : Memory :=
  ⟨mem.arrays.modify a.index fun _ => t⟩

/-- The address that is taken next. -/
def next (mem : Memory) : Address := ⟨mem.arrays.size⟩

/-- Puts an array at the next address. -/
def place (mem : Memory) (t : Tensor) : Memory := ⟨mem.arrays.push t⟩

/-- The arrays at some addresses. -/
def load (mem : Memory) (entries : List (String × Address)) : List (String × Tensor) :=
  entries.map fun entry => (entry.1, mem.read entry.2)

/-- Puts an array where another one lies, or at the next address if there is none. -/
def put (mem : Memory) (old : Option Address) (t : Tensor) : Address × Memory :=
  match old with
  | some a => (a, mem.write a t)
  | none => (mem.next, mem.place t)

/-- Puts arrays where those of the same names lie, and new ones at new addresses. -/
def store (mem : Memory) (old : List (String × Address)) :
    List (String × Tensor) → List (String × Address) × Memory
  | [] => ([], mem)
  | (name, t) :: rest =>
    let (a, mem) := mem.put (old.lookup name) t
    let (entries, mem) := store mem old rest
    ((name, a) :: entries, mem)

end Memory

namespace Optimizer

/-- An optimizer or a snapshot whose state arrays are in memory. -/
structure Located (α : Type) where
  /-- Everything but the state arrays. -/
  body : α
  arrays : List (String × Address)
  deriving Inhabited

instance : Inhabited Snapshot := ⟨sgd.snapshot⟩

/-- Optimizers and snapshots in one memory. -/
structure Bench where
  memory : Memory
  optimizers : Array (Located Optimizer)
  snapshots : Array (Located Snapshot)

namespace Bench

/-- Nothing in memory. -/
def empty : Bench := ⟨⟨#[]⟩, #[], #[]⟩

/-- An optimizer without what its arrays hold. -/
def located (b : Bench) (i : Nat) : Located Optimizer := b.optimizers.getD i default

/-- An optimizer as it is now. -/
def optimizer (b : Bench) (i : Nat) : Optimizer :=
  { (b.located i).body with state := b.memory.load (b.located i).arrays }

/-- A snapshot without what its arrays hold. -/
def recorded (b : Bench) (j : Nat) : Located Snapshot := b.snapshots.getD j default

/-- A snapshot as it reads now. -/
def snapshot (b : Bench) (j : Nat) : Snapshot :=
  { (b.recorded j).body with state := b.memory.load (b.recorded j).arrays }

/-- Puts an optimizer in the place of another one, with its arrays where some lie already. -/
def settle (b : Bench) (i : Nat) (old : List (String × Address)) (o : Optimizer) : Bench :=
  let (arrays, memory) := b.memory.store old o.state
  { b with
    memory := memory
    optimizers := b.optimizers.modify i fun _ => ⟨{ o with state := [] }, arrays⟩ }

/-- A step of an optimizer, which overwrites its arrays where they lie. -/
def inPlace {α : Type} (i : Nat) (step : Step Optimizer α) : Step Bench α :=
  Step.make fun b =>
    let (result, o) := step.runFrom (b.optimizer i)
    (result, b.settle i (b.located i).arrays o)

/-- Adds an optimizer. -/
def make (b : Bench) (o : Optimizer) : Bench :=
  let (arrays, memory) := b.memory.store [] o.state
  { b with
    memory := memory
    optimizers := b.optimizers.push ⟨{ o with state := [] }, arrays⟩ }

/-- Adds a snapshot, with copies of its arrays. -/
def keep (b : Bench) (s : Snapshot) : Bench :=
  let (arrays, memory) := b.memory.store [] s.state
  { b with
    memory := memory
    snapshots := b.snapshots.push ⟨{ s with state := [] }, arrays⟩ }

/-- Takes a snapshot of an optimizer. -/
def capture (i : Nat) : Step Bench Unit := do
  let s ← Step.ofExcept ((← get).optimizer i).report
  modify fun b => b.keep s

/-- Restores an optimizer from a snapshot, with copies of its arrays.  If this fails, the optimizer
keeps the arrays that it has. -/
def restore (i j : Nat) : Step Bench Unit :=
  Step.make fun b =>
    let (result, o) := (Optimizer.restore (b.snapshot j)).runFrom (b.optimizer i)
    let old := match result with
      | .ok () => []
      | .error _ => (b.located i).arrays
    (result, b.settle i old o)

end Bench

end Optimizer

end DataParallel

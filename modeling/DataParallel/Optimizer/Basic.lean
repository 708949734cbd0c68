import DataParallel.Keyed
import DataParallel.Step
import DataParallel.Tensor.Literal
import DataParallel.Text.Case

/-!
# Optimizers

An optimizer turns a gradient into a new weight.  It counts the updates of each parameter and
keeps state arrays for it, such as its momentum, under the identity of the parameter and the name
of the array.  A snapshot holds all of this and can be restored.

Hyperparameters are loose values and may be set under any name.  One that is set under the name
of an operation takes its place, and the operation cannot be carried out any more.
-/

namespace DataParallel

/-- The rule of an optimizer with the hyperparameters of its own. -/
inductive Rule where
  | sgd (momentum decay : Value)
  | adam (beta₁ beta₂ epsilon : Value)

/-- An optimizer. -/
structure Optimizer where
  rule : Rule
  rate : Value
  rescale : Value
  clip : Value
  counts : List (String × Value)
  state : List (String × Tensor)
  /-- Counts under keys that are no identity of a parameter. -/
  otherCounts : List (Value × Value)
  /-- The names of the operations that hyperparameters have taken. -/
  taken : List String

namespace Optimizer

/-- Stochastic gradient descent with its usual settings. -/
def sgd : Optimizer :=
  ⟨.sgd (.float 0.0) (.float 0.0), .float 0.01, .float 1.0, .null, [], [], [], []⟩

/-- Adam with its usual settings. -/
def adam : Optimizer :=
  ⟨.adam (.float 0.9) (.float 0.999) (.float 1e-8), .float 0.001, .float 1.0, .null, [], [], [], []⟩

instance : Inhabited Optimizer := ⟨sgd⟩

/-- The name of the rule. -/
def name (o : Optimizer) : String :=
  match o.rule with
  | .sgd .. => "sgd"
  | .adam .. => "adam"

/-- All hyperparameters by name. -/
def hyperparameters (o : Optimizer) : List (String × Value) :=
  [("learning_rate", o.rate), ("rescale_grad", o.rescale), ("clip_grad", o.clip)] ++
    match o.rule with
    | .sgd momentum decay => [("momentum", momentum), ("weight_decay", decay)]
    | .adam beta₁ beta₂ epsilon => [("beta1", beta₁), ("beta2", beta₂), ("epsilon", epsilon)]

/-- Sets one hyperparameter of a rule; a name that the rule does not have is ignored. -/
def Rule.set (name : String) (v : Value) : Rule → Rule
  | .sgd momentum decay =>
    if name = "momentum" then .sgd v decay
    else if name = "weight_decay" then .sgd momentum v
    else .sgd momentum decay
  | .adam beta₁ beta₂ epsilon =>
    if name = "beta1" then .adam v beta₂ epsilon
    else if name = "beta2" then .adam beta₁ v epsilon
    else if name = "epsilon" then .adam beta₁ beta₂ v
    else .adam beta₁ beta₂ epsilon

/-- The names of the operations. -/
def operations : List String :=
  ["update", "hyperparameters", "reset", "get_state", "set_state", "get_update_count",
   "remove_state", "_apply", "_preprocess", "_get_or_create_state"]

/-- Sets one hyperparameter.  The name of an operation is taken by it; any other name that the
optimizer does not have is ignored. -/
def set (o : Optimizer) (name : String) (v : Value) : Optimizer :=
  if name = "learning_rate" then { o with rate := v }
  else if name = "rescale_grad" then { o with rescale := v }
  else if name = "clip_grad" then { o with clip := v }
  else if name ∈ operations then { o with taken := o.taken.insert name }
  else { o with rule := Rule.set name v o.rule }

/-- Refuses an operation whose name is taken. -/
def available (name : String) (o : Optimizer) : Except Fault Unit :=
  if name ∈ o.taken then .error .wrongType else .ok ()

/-- The refusal as a step. -/
def need (name : String) : Step Optimizer Unit := do Step.ofExcept ((← get).available name)

/-- Whether an optimizer has a hyperparameter of this name. -/
def has (o : Optimizer) (name : String) : Bool := o.hyperparameters.any fun h => h.1 == name

/-- Refuses a momentum below zero. -/
def checked (o : Optimizer) : Except Fault Optimizer :=
  match o.rule with
  | .adam .. => .ok o
  | .sgd momentum _ =>
    match momentum.scalar? with
    | none => .error .wrongType
    | some s => if s.isNegative then .error .negativeMomentum else .ok o

/-- An optimizer with some of its settings given. -/
def configured (o : Optimizer) (settings : List (String × Value)) : Except Fault Optimizer :=
  if settings.all fun h => o.has h.1 then
    (settings.foldl (fun o h => o.set h.1 h.2) o).checked
  else .error .wrongType

/-- The optimizer with a name, in any letter case, with some of its settings given. -/
def ofName (name : String) (settings : List (String × Value)) : Except Fault Optimizer :=
  if settings.any fun h => h.1 == "name" then .error .wrongType
  else
    match String.ofList (Text.lower name.toList) with
    | "sgd" => sgd.configured settings
    | "adam" => adam.configured settings
    | _ => .error (.unknownOptimizer name)

/-- The fault of a name that is no text.  Bytes have letter cases like a text, but no optimizer is
named by bytes. -/
def misnamed : Value → Fault
  | .bytes bs => .unknownOptimizer (Value.bytes bs).display
  | _ => .missingPart

/-- The optimizer that a loose value names. -/
def ofValue (name : Value) (settings : List (String × Value)) : Except Fault Optimizer :=
  match name.text? with
  | some name => ofName name settings
  | none =>
    if settings.any fun h => h.1 == "name" then .error .wrongType else .error (misnamed name)

/-- The number of updates of a parameter, which may have been restored from any value. -/
def count (o : Optimizer) (id : String) : Value := (o.counts.lookup id).getD (.int 0)

/-- The count after another update. -/
def counted (n : Value) : Except Fault Value :=
  match n.scalar? with
  | none => .error .wrongType
  | some (.float x) => .ok (.float (x + 1))
  | some s => .ok (.int (s.whole?.getD 0 + 1))

/-- The name under which a state array of a parameter is kept. -/
def key (id part : String) : String := id ++ "_" ++ part

/-- Forgets all parameters. -/
def reset (o : Optimizer) : Optimizer := { o with counts := [], state := [], otherCounts := [] }

/-- Forgets one parameter, with every array whose name begins with its identity. -/
def forget (o : Optimizer) (id : String) : Optimizer :=
  { o with
    counts := Keyed.drop id o.counts
    state := o.state.filter fun entry => !(key id "").isPrefixOf entry.1 }

/-- What an optimizer can be restored from. -/
structure Snapshot where
  rule : String
  hyperparameters : List (String × Value)
  counts : List (String × Value)
  state : List (String × Tensor)
  otherCounts : List (Value × Value)

/-- The snapshot of an optimizer. -/
def snapshot (o : Optimizer) : Snapshot :=
  ⟨o.name, o.hyperparameters, o.counts, o.state, o.otherCounts⟩

/-- The snapshot, as far as the operations that it takes are available. -/
def report (o : Optimizer) : Except Fault Snapshot := do
  o.available "get_state"
  o.available "hyperparameters"
  return o.snapshot

/-- Sets hyperparameters one after the other; the name of the rule cannot be set. -/
def setAll : List (String × Value) → Step Optimizer Unit
  | [] => pure ()
  | (name, v) :: rest => do
    if name = "name" then throw .missingPart
    modify fun o => o.set name v
    setAll rest

/-- Restores a snapshot. -/
def restore (s : Snapshot) : Step Optimizer Unit := do
  need "set_state"
  setAll s.hyperparameters
  modify fun o => { o with counts := s.counts, state := s.state, otherCounts := s.otherCounts }

/-- The entries of a record under texts. -/
def textEntries (entries : List (Value × Value)) : List (String × Value) :=
  entries.filterMap fun | (.text k, v) => some (k, v) | _ => none

/-- Restores hyperparameters and counts that are loose values, and state arrays. -/
def restoreValues (hyperparameters counts : Value) (state : List (String × Tensor)) :
    Step Optimizer Unit := do
  need "set_state"
  match hyperparameters with
  | .record entries => setAll (textEntries entries)
  | _ => throw .missingPart
  let entries ← Step.ofExcept counts.toEntries
  let isText : Value → Bool := fun | .text _ => true | _ => false
  modify fun o =>
    { o with
      counts := textEntries entries
      state := state
      otherCounts := entries.filter fun entry => !isText entry.1 }

end Optimizer

end DataParallel

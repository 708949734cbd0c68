import DataParallel.Pool.Array

/-!
# Managers

A manager makes arrays on its device and closes everything bound to it.  Managers form a tree:
closing one closes those below it first, then its arrays, and takes it off the list of the
manager above.  A closed manager makes and takes nothing more.
-/

namespace DataParallel.Pool

/-- A manager below no other one, on the first processor if no device is set. -/
def newManager (device : Device := .unset) : Step Pool ManagerId :=
  modifyGet fun p => p.addManager ⟨device.or .cpu, none, [], [], true⟩

/-- Refuses a closed manager. -/
def checkOpen (m : ManagerId) : Step Pool Unit := do
  if !((← get).manager m).isOpen then throw .managerClosed

/-- A manager below another one, on its device unless one is set. -/
def newSubManager (m : ManagerId) (device : Device := .unset) : Step Pool ManagerId := do
  checkOpen m
  modifyGet fun p =>
    let (child, p) := p.addManager ⟨device.or (p.manager m).device, some m, [], [], true⟩
    (child, p.updateManager m fun s => { s with children := s.children ++ [child] })

/-- A new array bound to a manager, on its device unless one is set.  The manager must be open
before the contents are looked at. -/
def create (m : ManagerId) (contents : Except Fault Contents) (device : Device := .unset) :
    Step Pool ArrayId := do
  checkOpen m
  let c ← Step.ofExcept contents
  let a ← place (device.or ((← get).manager m).device) c
  attach a m
  return a

/-- A new array bound to a manager, whose contents are settled before the manager is asked. -/
def createFilled (m : ManagerId) (contents : Except Fault Tensor) : Step Pool ArrayId := do
  let t ← Step.ofExcept contents
  create m (.ok t)

/-- Closes a manager and everything below it; `depth` bounds the height of the tree. -/
def closedBelow : Nat → Pool → ManagerId → Pool
  | 0, p, _ => p
  | depth + 1, p, m =>
    if !(p.manager m).isOpen then p
    else
      let p := (p.manager m).children.foldl (closedBelow depth) p
      let resources := (p.manager m).resources
      let p := p.updateManager m fun s => { s with resources := [], isOpen := false }
      let p := resources.foldl closed p
      match (p.manager m).parent with
      | some above => p.updateManager above fun s => { s with children := s.children.erase m }
      | none => p

/-- Closes a manager and everything below it. -/
def managerClosed (p : Pool) (m : ManagerId) : Pool := closedBelow p.managers.size p m

/-- Closes a manager and everything below it. -/
def closeManager (m : ManagerId) : Step Pool Unit := modify (·.managerClosed m)

/-- Runs a step under a manager, which is closed afterwards in every case. -/
def closing {α : Type} (m : ManagerId) (step : Step Pool α) : Step Pool α := do
  let result ← Step.attempt step
  closeManager m
  Step.ofExcept result

/-- A manager as text. -/
def managerText (p : Pool) (m : ManagerId) : String :=
  let s := p.manager m
  "NDManager(device=" ++ s.device.text ++ ", resources=" ++
    Number.intText s.resources.length ++ ")"

end DataParallel.Pool

import DataParallel.Journal.Basic
import DataParallel.Parameter.Initial
import DataParallel.Pool.Manager

/-!
# The host

What all components of a program share: the pool of arrays and managers, the numbers that it
draws, the journal, and how items of any type are converted when they are written into an array.
-/

namespace DataParallel

/-- The shared state of a program. -/
structure Host where
  pool : Pool
  draws : Draws
  journal : Journal
  conversion : Conversion
  deriving Inhabited

namespace Host

variable {α : Type}

/-- The host of a program that begins. -/
def empty : Host := ⟨.empty, default, .empty, default⟩

/-- A step on the pool. -/
def onPool (step : Step Pool α) : Step Host α :=
  step.within Host.pool fun p h => { h with pool := p }

/-- A step on the sequence of drawn numbers. -/
def onDraws (step : Step Draws α) : Step Host α :=
  step.within Host.draws fun k h => { h with draws := k }

/-- A step on the journal. -/
def onJournal (step : Step Journal α) : Step Host α :=
  step.within Host.journal fun j h => { h with journal := j }

/-- Overwrites what an array holds with anything of its shape. -/
def overwrite (a : ArrayId) (values : Contents) : Step Host Unit := do
  onPool (Pool.overwrite (← get).conversion a values)

/-- Writes a finished message into the journal. -/
def note (component : String) (severity : Severity) (message : String) : Step Host Unit :=
  onJournal (modify (Journal.log component severity message))

end Host

end DataParallel

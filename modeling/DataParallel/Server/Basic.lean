import DataParallel.Host

/-!
# Parameter servers

What a store asks of a parameter server.  Lists of arrays are in slot order; a call with a higher
priority should be served before one with a lower priority.
-/

namespace DataParallel

/-- The three calls of a parameter server whose state is `σ`. -/
class ParameterServer (σ : Type) where
  /-- Registers the initial arrays of a parameter. -/
  init (id : String) (arrays : List ArrayId) : Step (σ × Host) Unit
  /-- Submits the gradients of a parameter. -/
  push (id : String) (gradients : List ArrayId) (priority : Int) : Step (σ × Host) Unit
  /-- Writes the current value of a parameter into every array. -/
  pull (id : String) (weights : List ArrayId) (priority : Int) : Step (σ × Host) Unit

end DataParallel

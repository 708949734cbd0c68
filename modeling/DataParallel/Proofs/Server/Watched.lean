import DataParallel.Proofs.Server.Contained

/-!
# Watched servers

A watched server is a server with a list of the calls that were made of it and
how they ended.  It does what the server does, so that statements about the
calls of a store are statements about stores over watched servers.
-/

namespace DataParallel

open Step

/-- A server and the calls that were made of it. -/
structure Watched (σ : Type) where
  server : σ
  calls : List (Call × Except Fault Unit)

namespace Watched

variable {σ : Type}

/-- A step of the server that is put on the list. -/
def call (c : Call) (step : Step (σ × Host) Unit) : Step (Watched σ × Host) Unit :=
  .make fun (w, h) =>
    let (result, server, h) := step.runFrom (w.server, h)
    (result, ⟨server, w.calls ++ [(c, result)]⟩, h)

theorem along_call {R : Host → Host → Prop} {c : Call} {step : Step (σ × Host) Unit}
    (hstep : Along (Beside R) step) : Along (Beside R) (call c step) :=
  fun x => hstep (x.1.server, x.2)

variable [ParameterServer σ]

instance : ParameterServer (Watched σ) where
  init id arrays := call ⟨.init, id, arrays, none⟩ (ParameterServer.init id arrays)
  push id gradients priority :=
    call ⟨.push, id, gradients, some priority⟩ (ParameterServer.push id gradients priority)
  pull id weights priority :=
    call ⟨.pull, id, weights, some priority⟩ (ParameterServer.pull id weights priority)

instance [Contained σ] : Contained (Watched σ) where
  init id arrays := along_call (Contained.init id arrays)
  push id gradients priority := along_call (Contained.push id gradients priority)
  pull id weights priority := along_call (Contained.pull id weights priority)

/-- The calls after an init call. -/
theorem runFrom_init (id : String) (arrays : List ArrayId) (w : Watched σ) (h : Host) :
    ∃ r v k, (ParameterServer.init id arrays : Step (Watched σ × Host) Unit).runFrom (w, h) =
      (r, ⟨v, w.calls ++ [(⟨.init, id, arrays, none⟩, r)]⟩, k) :=
  ⟨_, _, _, rfl⟩

/-- The calls after a push. -/
theorem runFrom_push (id : String) (gradients : List ArrayId) (priority : Int) (w : Watched σ)
    (h : Host) :
    ∃ r v k, (ParameterServer.push id gradients priority : Step (Watched σ × Host) Unit).runFrom
      (w, h) = (r, ⟨v, w.calls ++ [(⟨.push, id, gradients, some priority⟩, r)]⟩, k) :=
  ⟨_, _, _, rfl⟩

/-- The calls after a pull. -/
theorem runFrom_pull (id : String) (weights : List ArrayId) (priority : Int) (w : Watched σ)
    (h : Host) :
    ∃ r v k, (ParameterServer.pull id weights priority : Step (Watched σ × Host) Unit).runFrom
      (w, h) = (r, ⟨v, w.calls ++ [(⟨.pull, id, weights, some priority⟩, r)]⟩, k) :=
  ⟨_, _, _, rfl⟩

end Watched

end DataParallel

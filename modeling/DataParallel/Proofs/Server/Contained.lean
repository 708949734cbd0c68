import DataParallel.Proofs.Host.Evolution
import DataParallel.Server.Local
import DataParallel.Server.Recording

/-!
# Contained servers

A server is handed arrays of the program and may do with them what it likes,
but only through the operations on arrays.  Then no call of it, whether it
succeeds or fails, breaks the identity of an array: the pool evolves.  This is
all that the statements about stores ask of a server.
-/

namespace DataParallel

open Step

/-- Every call of the server lets the pool evolve. -/
class Contained (σ : Type) [ParameterServer σ] : Prop where
  init : ∀ id arrays,
    Along (Beside Host.Evolves) (ParameterServer.init id arrays : Step (σ × Host) Unit)
  push : ∀ id gradients priority,
    Along (Beside Host.Evolves)
      (ParameterServer.push id gradients priority : Step (σ × Host) Unit)
  pull : ∀ id weights priority,
    Along (Beside Host.Evolves)
      (ParameterServer.pull id weights priority : Step (σ × Host) Unit)

/-! ## The local server -/

namespace LocalServer

section Unchanged

variable {R : Host → Host → Prop} [IsPreorder Host R]

/-- A change of the server alone. -/
theorem along_change (f : LocalServer × Host → LocalServer) :
    Along (Beside R)
      (modify fun x : LocalServer × Host => (f x, x.2) : Step (LocalServer × Host) PUnit) :=
  along_modify_first f

theorem along_read (a : ArrayId) : Along (Beside R) (read a) :=
  along_second (Host.along_read a)

theorem along_total (sum : Option Tensor) (arrays : List ArrayId) :
    Along (Beside R) (total sum arrays) := by
  induction arrays generalizing sum with
  | nil =>
    rw [total]
    exact along_pure _
  | cons a rest ih =>
    rcases sum with _ | sum
    · exact along_bind (along_read a) fun t => ih (some t)
    · exact along_bind (along_read a) fun t =>
        along_bind (along_ofExcept _) fun t => ih (some t)

theorem along_master (id : String) : Along (Beside R) (master id) := by
  refine along_bind along_get fun x => ?_
  split
  · exact along_pure _
  · exact along_throw _

/-- A push changes nothing but the server. -/
theorem along_push (id : String) (gradients : List ArrayId) (priority : Int) :
    Along (Beside R) (push id gradients priority) := by
  refine along_bind (along_master id) fun _ => along_bind (along_change fun x => { x.1 with
    counters.pushes := x.1.counters.pushes + 1 }) fun _ => ?_
  refine along_bind (along_total none gradients) fun sum => ?_
  rcases sum with _ | sum
  · exact along_pure _
  · have hput := fun t => along_change (R := R) fun x => { x.1 with
      pending := Keyed.put id t x.1.pending
      priorities := Keyed.put id priority x.1.priorities }
    refine along_bind along_get fun x => ?_
    dsimp only
    split
    · exact along_bind (along_pure _) hput
    · exact along_bind (along_ofExcept _) hput

end Unchanged

theorem along_init (id : String) (arrays : List ArrayId) :
    Along (Beside Host.Evolves) (init id arrays) := by
  rcases arrays with _ | ⟨a, rest⟩
  · exact along_throw _
  · refine along_bind (along_change fun x => { x.1 with
      counters.inits := x.1.counters.inits + 1 }) fun _ => along_bind along_get fun x => ?_
    split
    · exact along_pure _
    · refine along_bind (along_read a) fun t => ?_
      refine along_bind (along_change fun x => { x.1 with
        masters := Keyed.put id t x.1.masters }) fun _ => ?_
      exact along_second (Host.along_note _ _ _)

theorem along_settle (id : String) : Along (Beside Host.Evolves) (settle id) := by
  refine along_bind (along_master id) fun weight => ?_
  have htake : Along (Beside Host.Evolves) (takePending id) :=
    along_bind along_get fun x => along_bind (along_change fun y => { y.1 with
      pending := Keyed.drop id y.1.pending }) fun _ => along_pure _
  refine along_bind htake fun pending => ?_
  rcases pending with _ | grad
  · exact along_pure _
  · exact along_bind (along_first _) fun result => along_change fun x => { x.1 with
      masters := Keyed.put id result x.1.masters
      updated := x.1.updated.insert id
      counters.updates := x.1.counters.updates + 1 }

theorem along_writeAll (t : Tensor) (arrays : List ArrayId) :
    Along (Beside Host.Evolves) (writeAll t arrays) := by
  induction arrays with
  | nil => exact along_pure _
  | cons a rest ih =>
    exact along_bind (along_second (Host.along_onPool (Pool.along_set a t))) fun _ => ih

theorem along_pull (id : String) (weights : List ArrayId) :
    Along (Beside Host.Evolves) (pull id weights) := by
  refine along_bind (along_master id) fun _ => along_bind (along_change fun x => { x.1 with
    counters.pulls := x.1.counters.pulls + 1 }) fun _ => ?_
  refine along_bind (along_settle id) fun _ => along_bind (along_master id) fun t => ?_
  exact along_writeAll t weights

instance : Contained LocalServer where
  init := along_init
  push := along_push
  pull id weights _ := along_pull id weights

end LocalServer

/-! ## The recording server -/

namespace RecordingServer

section Unchanged

variable {R : Host → Host → Prop} [IsPreorder Host R]

theorem along_record (c : Call) : Along (Beside R) (record c) :=
  along_modify_first fun x : RecordingServer × Host => { x.1 with calls := x.1.calls ++ [c] }

/-- A push changes nothing but the server. -/
theorem along_push (id : String) (gradients : List ArrayId) (priority : Int) :
    Along (Beside R) (push id gradients priority) := by
  refine along_bind along_get fun x => ?_
  split
  · exact along_throw_bind _
  · exact along_record _

end Unchanged

theorem along_fillAll (arrays : List ArrayId) : Along (Beside Host.Evolves) (fillAll arrays) := by
  induction arrays with
  | nil => exact along_pure _
  | cons a rest ih =>
    have hfill : Along (Beside Host.Evolves) (fillArray a) :=
      along_bind along_get fun x =>
        along_second (Host.along_onPool (Pool.along_fillWith a x.1.fill))
    exact along_bind hfill fun _ => ih

instance : Contained RecordingServer where
  init id arrays := by
    refine along_bind along_get fun x => ?_
    dsimp only
    split
    · exact along_throw_bind _
    · exact along_record _
  push := along_push
  pull id weights priority := by
    have hrest := along_bind (along_record ⟨.pull, id, weights, some priority⟩)
      fun _ => along_fillAll weights
    refine along_bind along_get fun x => ?_
    split
    · exact along_throw_bind _
    · exact hrest

end RecordingServer

end DataParallel

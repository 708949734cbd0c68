import DataParallel.Proofs.Server.Session
import DataParallel.Proofs.Step.Mirrors

/-!
# What the local server does not read

The counters of a server are written and never read by a call, and so are the priorities.  A server
with other counters and priorities goes through the same calls with the same results, and differs
afterwards in nothing else.
-/

namespace DataParallel

open Step

/-- Counters that went on from others. -/
def ServerCounters.add (earlier later : ServerCounters) : ServerCounters :=
  ⟨earlier.inits + later.inits, earlier.pushes + later.pushes, earlier.pulls + later.pulls,
    earlier.updates + later.updates⟩

namespace LocalServer

/-- The server with its counters ahead by some others, and with its priorities changed. -/
def marked (c : ServerCounters) (f : List (String × Int) → List (String × Int)) (v : LocalServer) :
    LocalServer :=
  { v with counters := c.add v.counters, priorities := f v.priorities }

/-- The same host beside. -/
abbrev besideMarked (c : ServerCounters) (f : List (String × Int) → List (String × Int)) :
    LocalServer × Host → LocalServer × Host :=
  Prod.map (marked c f) id

section Marked

variable {c : ServerCounters} {f : List (String × Int) → List (String × Int)}

theorem mirrors_read (a : ArrayId) : Mirrors (besideMarked c f) (read a) (read a) :=
  mirrors_second _

theorem mirrors_total (sum : Option Tensor) (arrays : List ArrayId) :
    Mirrors (besideMarked c f) (total sum arrays) (total sum arrays) := by
  induction arrays generalizing sum with
  | nil =>
    rw [total]
    exact mirrors_pure _
  | cons a rest ih =>
    rcases sum with _ | sum
    · exact mirrors_bind (mirrors_read a) fun t => ih (some t)
    · exact mirrors_bind (mirrors_read a) fun t =>
        mirrors_bind (mirrors_ofExcept _) fun t => ih (some t)

theorem mirrors_master (id : String) : Mirrors (besideMarked c f) (master id) (master id) := by
  refine mirrors_get_bind fun x => ?_
  dsimp only [besideMarked, Prod.map, marked]
  split
  · exact mirrors_pure _
  · exact mirrors_throw _

theorem mirrors_init (id : String) (arrays : List ArrayId) :
    Mirrors (besideMarked c f) (init id arrays) (init id arrays) := by
  rcases arrays with _ | ⟨first, rest⟩
  · exact mirrors_throw _
  refine mirrors_bind (mirrors_modify fun _ => rfl) fun _ => mirrors_get_bind fun x => ?_
  dsimp only [besideMarked, Prod.map, marked]
  refine mirrors_ite (mirrors_pure _) (mirrors_bind (mirrors_read first) fun t => ?_)
  exact mirrors_bind (mirrors_modify fun _ => rfl) fun _ => mirrors_second _

/-- A push sets a priority, so the priorities are to be left as they are. -/
theorem mirrors_push (name : String) (gradients : List ArrayId) (priority : Int) :
    Mirrors (besideMarked c id) (push name gradients priority) (push name gradients priority) := by
  refine mirrors_bind (mirrors_master name) fun _ => mirrors_bind (mirrors_modify fun _ => rfl)
    fun _ => mirrors_bind (mirrors_total none gradients) fun sum => ?_
  rcases sum with _ | sum
  · exact mirrors_pure _
  refine mirrors_get_bind fun x => ?_
  dsimp only [besideMarked, Prod.map, marked]
  split
  · exact mirrors_bind (mirrors_pure _) fun _ => mirrors_modify fun _ => rfl
  · exact mirrors_bind (mirrors_ofExcept _) fun _ => mirrors_modify fun _ => rfl

/-- The optimizer is the same, so it does the same. -/
theorem mirrors_optimizer {α : Type} (step : Step Optimizer α) :
    Mirrors (besideMarked c f)
      (Step.first (step.within optimizer fun o s => { s with optimizer := o }))
      (Step.first (step.within optimizer fun o s => { s with optimizer := o })) :=
  fun _ => rfl

theorem mirrors_settle (id : String) : Mirrors (besideMarked c f) (settle id) (settle id) := by
  have htake : Mirrors (besideMarked c f) (takePending id) (takePending id) :=
    mirrors_get_bind fun _ => mirrors_bind (mirrors_modify fun _ => rfl) fun _ => mirrors_pure _
  refine mirrors_bind (mirrors_master id) fun weight => mirrors_bind htake fun grad => ?_
  rcases grad with _ | grad
  · exact mirrors_pure _
  · exact mirrors_bind (mirrors_optimizer _) fun _ => mirrors_modify fun _ => rfl

theorem mirrors_writeAll (t : Tensor) (arrays : List ArrayId) :
    Mirrors (besideMarked c f) (writeAll t arrays) (writeAll t arrays) := by
  induction arrays with
  | nil => exact mirrors_pure _
  | cons a rest ih => exact mirrors_bind (mirrors_second _) fun _ => ih

theorem mirrors_pull (id : String) (weights : List ArrayId) :
    Mirrors (besideMarked c f) (pull id weights) (pull id weights) :=
  mirrors_bind (mirrors_master id) fun _ => mirrors_bind (mirrors_modify fun _ => rfl) fun _ =>
    mirrors_bind (mirrors_settle id) fun _ => mirrors_bind (mirrors_master id) fun t =>
    mirrors_writeAll t weights

/-- No request reads the counters. -/
theorem Request.mirrors_step (r : Request) : Mirrors (besideMarked c id) r.step r.step := by
  cases r with
  | init id arrays => exact mirrors_init id arrays
  | push id gradients priority => exact mirrors_push id gradients priority
  | pull id weights => exact mirrors_pull id weights
  | close => exact mirrors_modify fun _ => rfl

end Marked

/-! ## Servers that are alike -/

/-- The servers are the same but for their counters and priorities. -/
structure Alike (v w : LocalServer) : Prop where
  optimizer : v.optimizer = w.optimizer
  masters : v.masters = w.masters
  pending : v.pending = w.pending
  updated : v.updated = w.updated

namespace Alike

variable {u v w : LocalServer}

theorem refl (v : LocalServer) : Alike v v := ⟨rfl, rfl, rfl, rfl⟩

theorem symm (h : Alike v w) : Alike w v :=
  ⟨h.optimizer.symm, h.masters.symm, h.pending.symm, h.updated.symm⟩

theorem trans (h : Alike u v) (h' : Alike v w) : Alike u w :=
  ⟨h.optimizer.trans h'.optimizer, h.masters.trans h'.masters, h.pending.trans h'.pending,
    h.updated.trans h'.updated⟩

theorem get?_eq (h : Alike v w) (id : String) : v.get? id = w.get? id :=
  congrArg (List.lookup id) h.masters

/-- The same server before its first call and its first priority. -/
def unmarked (v : LocalServer) : LocalServer :=
  { v with counters := ⟨0, 0, 0, 0⟩, priorities := [] }

theorem eq_marked (h : Alike v w) : v = marked v.counters (fun _ => v.priorities) (unmarked w) := by
  obtain ⟨optimizer, masters, pending, priorities, updated, counters⟩ := v
  obtain ⟨rfl, rfl, rfl, rfl⟩ := h
  rfl

theorem runFrom_pull (h : Alike v w) (id : String) (weights : List ArrayId) (k : Host) :
    (LocalServer.pull id weights).runFrom (v, k) =
      (((LocalServer.pull id weights).runFrom (unmarked w, k)).1,
        besideMarked v.counters (fun _ => v.priorities)
          ((LocalServer.pull id weights).runFrom (unmarked w, k)).2) := by
  have hmirror := mirrors_pull (c := v.counters) (f := fun _ => v.priorities) id weights
    (unmarked w, k)
  have hstart : besideMarked v.counters (fun _ => v.priorities) (unmarked w, k) = (v, k) :=
    Prod.ext h.eq_marked.symm rfl
  rwa [hstart] at hmirror

/-- Servers that are alike pull with the same result into the same arrays, and stay alike. -/
theorem pull (h : Alike v w) (id : String) (weights : List ArrayId) (k : Host) :
    ∃ r v' w' k', (LocalServer.pull id weights).runFrom (v, k) = (r, v', k') ∧
      (LocalServer.pull id weights).runFrom (w, k) = (r, w', k') ∧ Alike v' w' :=
  ⟨_, _, _, _, h.runFrom_pull id weights k, (refl w).runFrom_pull id weights k,
    ⟨rfl, rfl, rfl, rfl⟩⟩

end Alike

end LocalServer

end DataParallel

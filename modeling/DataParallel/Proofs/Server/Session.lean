import DataParallel.Proofs.Pool.Creation
import DataParallel.Proofs.Server.Contained

/-!
# Sessions of the local server

A session is a series of requests to a local server, from any state of it on.  Between the
requests the program may do with its arrays and managers what it likes.  The log of a session has
each request with the host that it met and the way it ended, so that statements about runs of the
server are statements about logs.
-/

namespace DataParallel

open Step

namespace LocalServer

/-- What can be asked of a local server. -/
inductive Request where
  | init (id : String) (arrays : List ArrayId)
  | push (id : String) (gradients : List ArrayId) (priority : Int)
  | pull (id : String) (weights : List ArrayId)
  | close
  deriving DecidableEq

/-- What the server does when it is asked. -/
def Request.step : Request → Step (LocalServer × Host) Unit
  | init id arrays => LocalServer.init id arrays
  | push id gradients priority => LocalServer.push id gradients priority
  | pull id weights => LocalServer.pull id weights
  | close => modify fun (s, h) => (s.close, h)

/-- A request, the host that it met, and how it ended. -/
structure Exchange where
  request : Request
  host : Host
  result : Except Fault Unit

/-- The server and the host after some requests, with the log of these. -/
inductive Session (start : LocalServer × Host) : List Exchange → LocalServer × Host → Prop
  | nil : Session start [] start
  | call {log : List Exchange} {x : LocalServer × Host} (before : Session start log x)
      (r : Request) :
      Session start (log ++ [⟨r, x.2, (r.step.runFrom x).1⟩]) (r.step.runFrom x).2
  /-- Something else happened to the arrays. -/
  | elsewhere {log : List Exchange} {x : LocalServer × Host} {k : Host}
      (before : Session start log x) (evolved : x.2.Evolves k) : Session start log (x.1, k)

/-- No request failed, and the server was not closed. -/
def Faultless (log : List Exchange) : Prop :=
  ∀ e ∈ log, e.result = .ok () ∧ e.request ≠ .close

theorem Faultless.append {log : List Exchange} {e : Exchange} (h : Faultless (log ++ [e])) :
    Faultless log ∧ e.result = .ok () ∧ e.request ≠ .close := by
  constructor
  · intro e' he'
    exact h e' (List.mem_append_left _ he')
  · exact h e (List.mem_append_right _ (List.mem_singleton_self e))

theorem Request.along_step (r : Request) : Along (Beside Host.Evolves) r.step := by
  cases r with
  | init id arrays => exact along_init id arrays
  | push id gradients priority => exact along_push id gradients priority
  | pull id weights => exact along_pull id weights
  | close => exact along_change fun x => x.1.close

theorem Session.evolves {start x : LocalServer × Host} {log : List Exchange}
    (h : Session start log x) : start.2.Evolves x.2 := by
  induction h with
  | nil => exact Std.Refl.refl (r := Host.Evolves) start.2
  | @call log x before r ih => exact ih.trans (r.along_step x)
  | elsewhere before evolved ih => exact ih.trans evolved

/-! ## Requests one right after the other -/

/-- The log of some requests, and what they lead to. -/
def perform (x : LocalServer × Host) : List Request → List Exchange × LocalServer × Host
  | [] => ([], x)
  | r :: rest =>
    let (log, y) := perform (r.step.runFrom x).2 rest
    (⟨r, x.2, (r.step.runFrom x).1⟩ :: log, y)

theorem Session.perform {start x : LocalServer × Host} {log : List Exchange}
    (h : Session start log x) (requests : List Request) :
    Session start (log ++ (perform x requests).1) (perform x requests).2 := by
  induction requests generalizing log x with
  | nil =>
    rw [LocalServer.perform, List.append_nil]
    exact h
  | cons r rest ih =>
    have hrest := ih (h.call r)
    rw [List.append_assoc, List.singleton_append] at hrest
    exact hrest

theorem session_perform (x : LocalServer × Host) (requests : List Request) :
    Session x (LocalServer.perform x requests).1 (LocalServer.perform x requests).2 := by
  have h := (Session.nil : Session x [] x).perform requests
  rwa [List.nil_append] at h

/-- The request was no close and did not fail. -/
def Exchange.succeeded (e : Exchange) : Bool := e.result.toOption.isSome && e.request != .close

theorem faultless_of_all {log : List Exchange} (h : log.all Exchange.succeeded = true) :
    Faultless log := by
  intro e he
  obtain ⟨hresult, hopen⟩ := Bool.and_eq_true_iff.mp (List.all_eq_true.mp h e he)
  constructor
  · rcases hr : e.result with fault | u
    · rw [hr] at hresult
      cases hresult
    · rfl
  · simpa using hopen

/-- A host with an array for each of the contents. -/
def hostWith (contents : List Tensor) : Host :=
  { Host.empty with pool := contents.foldl (fun p (t : Tensor) => p.placed .unset t) Pool.empty }

theorem reached_hostWith (contents : List Tensor) : Host.empty.Evolves (hostWith contents) :=
  Pool.evolves_foldl (fun _ _ => (Pool.extends_addOwning rfl).evolves) contents Pool.empty

end LocalServer

end DataParallel

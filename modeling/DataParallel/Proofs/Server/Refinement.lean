import DataParallel.Proofs.Server.Ledger
import DataParallel.Proofs.Server.Session

/-!
# The local server keeps a ledger of every parameter

While no call fails, what the server holds of a parameter is what a ledger would hold that saw
the calls about this parameter only.  So the calls about other parameters do not matter to it, nor
when they were made; and every gradient that was pushed goes into one update, that of the next
pull.
-/

namespace DataParallel

open Step

namespace LocalServer

/-- What a server keeps of a parameter. -/
def ledger (id : String) (s : LocalServer) : Ledger :=
  ⟨s.get? id, s.pending.lookup id, s.priority? id, s.optimizer⟩

/-- What a request enters into the ledger of a parameter, if it is about it. -/
def Exchange.event? (id : String) (e : Exchange) : Option Event :=
  match e.request with
  | .init name (first :: _) =>
    if name = id then some (.init (e.host.pool.contents? first)) else none
  | .push name gradients priority =>
    if name = id then some (.push (gradients.filterMap e.host.pool.contents?) priority) else none
  | .pull name _ => if name = id then some .pull else none
  | _ => none

/-- The calls about a parameter. -/
def events (id : String) (log : List Exchange) : List Event := log.filterMap (Exchange.event? id)

section Calls

variable {id name : String} {v w : LocalServer}

theorem priority?_congr (h : w.priorities = v.priorities) (id : String) :
    w.priority? id = v.priority? id :=
  congrArg (List.lookup id) h

theorem Learns.enters {t : Option Tensor} (h : Learns id t v w) :
    (ledger id v).enter id (.init t) = .ok (ledger id w) := by
  rw [Ledger.enter, ledger, ledger, h.master, h.pending, priority?_congr h.priorities,
    h.optimizer]

theorem Learns.spares {t : Option Tensor} (h : Learns name t v w) (hid : id ≠ name) :
    (ledger id v).Same id (ledger id w) := by
  constructor
  · exact (h.others id hid).symm
  · exact congrArg (List.lookup id) h.pending.symm
  · exact (priority?_congr h.priorities id).symm
  · rw [ledger, ledger, h.optimizer]
    exact .refl id v.optimizer

theorem Gathered.enters {grads : List Tensor} {priority : Int}
    (h : Gathered id grads priority v w) :
    (ledger id v).enter id (.push grads priority) = .ok (ledger id w) := by
  obtain ⟨m, hm⟩ := Option.isSome_iff_exists.mp h.known
  rw [Ledger.enter_of_push (l := ledger id v) hm h.pending, ledger, ledger, h.priority, h.get?,
    h.optimizer]

theorem Gathered.spares {grads : List Tensor} {priority : Int}
    (h : Gathered name grads priority v w) (hid : id ≠ name) :
    (ledger id v).Same id (ledger id w) := by
  constructor
  · exact (h.get? id).symm
  · exact (h.others id hid).1.symm
  · exact (h.others id hid).2.symm
  · rw [ledger, ledger, h.optimizer]
    exact .refl id v.optimizer

theorem Settled.enters {t : Tensor} (h : Settled id t v w) :
    (ledger id v).enter id .pull = .ok (ledger id w) := by
  obtain ⟨m, hm, hnext⟩ := h.update
  rw [Ledger.enter_of_pull (l := ledger id v) hm hnext, ledger, ledger, h.master, h.taken,
    priority?_congr h.priorities]

theorem Settled.spares {t : Tensor} (h : Settled name t v w) (hid : id ≠ name) :
    (ledger id v).Same id (ledger id w) := by
  constructor
  · exact (h.others id hid).1.symm
  · exact (h.others id hid).2.symm
  · exact (priority?_congr h.priorities id).symm
  · exact h.agree hid

end Calls

/-- A request that succeeds enters what it is about into the ledger of its parameter, and nothing
into the others. -/
theorem Request.enters {r : Request} {x y : LocalServer × Host} (id : String)
    (hrun : r.step.runFrom x = (.ok (), y)) (hopen : r ≠ .close) :
    match Exchange.event? id ⟨r, x.2, .ok ()⟩ with
    | some e => (ledger id x.1).enter id e = .ok (ledger id y.1)
    | none => (ledger id x.1).Same id (ledger id y.1) := by
  cases r with
  | init name arrays =>
    rcases arrays with _ | ⟨a, rest⟩
    · cases hrun
    · obtain ⟨r, w, k, hinit, -, hlearns, -⟩ := runFrom_init name a rest x.1 x.2
      obtain ⟨-, rfl⟩ := Prod.mk.inj (hinit.symm.trans hrun)
      by_cases hname : name = id
      · subst hname
        simp only [Exchange.event?, ↓reduceIte]
        exact hlearns.enters
      · simp only [Exchange.event?, if_neg hname]
        exact hlearns.spares (Ne.symm hname)
  | push name gradients priority =>
    obtain ⟨-, -, hgathered⟩ := push_ok hrun
    by_cases hname : name = id
    · subst hname
      simp only [Exchange.event?, ↓reduceIte]
      exact hgathered.enters
    · simp only [Exchange.event?, if_neg hname]
      exact hgathered.spares (Ne.symm hname)
  | pull name weights =>
    obtain ⟨w, hsettled, -⟩ := pull_ok hrun
    by_cases hname : name = id
    · subst hname
      simp only [Exchange.event?, ↓reduceIte]
      exact hsettled.enters
    · simp only [Exchange.event?, if_neg hname]
      exact hsettled.spares (Ne.symm hname)
  | close => exact absurd rfl hopen

/-- At every point of a session without a failure, the ledger that saw only the calls about a
parameter says of it what the server does. -/
theorem Session.exists_ledger {o : Optimizer} {h : Host} {log : List Exchange}
    {x : LocalServer × Host} (hsession : Session (LocalServer.new o, h) log x)
    (hfaultless : Faultless log) (id : String) :
    ∃ l, (Ledger.new o).run id (events id log) = .ok l ∧ l.Same id (ledger id x.1) := by
  induction hsession with
  | nil => exact ⟨.new o, rfl, .refl id (.new o)⟩
  | @call log x before r ih =>
    obtain ⟨hbefore, hresult, hopen⟩ := hfaultless.append
    obtain ⟨l, hl, hsame⟩ := ih hbefore
    have hrun : r.step.runFrom x = (.ok (), (r.step.runFrom x).2) := Prod.ext hresult rfl
    have henters := Request.enters id hrun hopen
    have hevent : Exchange.event? id ⟨r, x.2, (r.step.runFrom x).1⟩ =
        Exchange.event? id ⟨r, x.2, .ok ()⟩ := rfl
    rw [events, List.filterMap_append, List.filterMap_cons, hevent]
    rcases he : Exchange.event? id ⟨r, x.2, .ok ()⟩ with _ | e
    · rw [he] at henters
      refine ⟨l, ?_, hsame.trans henters⟩
      rw [List.filterMap_nil, List.append_nil]
      exact hl
    · rw [he] at henters
      obtain ⟨k, hk, hsame'⟩ := hsame.symm.enter henters
      refine ⟨k, ?_, hsame'.symm⟩
      rw [Ledger.run, List.foldlM_append]
      rw [Ledger.run, events] at hl
      rw [hl]
      show [e].foldlM (Ledger.enter id) l = .ok k
      rw [List.foldlM_cons, hk]
      rfl
  | elsewhere before evolved ih => exact ih hfaultless

/-! ## The refinement -/

/-- What a session without a failure comes to, for each parameter: the server holds what the
ledger does, the ledger accounts for every gradient, a further pull leaves the master in its
arrays, and other sessions in which the calls about the parameter are the same come to the same. -/
structure Refines (o : Optimizer) (log : List Exchange) (x : LocalServer × Host) (id : String) :
    Prop where
  kept : ∃ l, (Ledger.new o).run id (events id log) = .ok l ∧ l.Same id (ledger id x.1) ∧
    Accounted id o (events id log) l
  filled : ∀ weights y, (pull id weights).runFrom x = (.ok (), y) →
    ∃ w, y.1.get? id = some w ∧ ∀ a ∈ weights, ∃ old, x.2.pool.contents? a = some old ∧
      y.2.pool.contents? a = some (w.cast old.dtype)
  commutes : ∀ h log' x', Session (LocalServer.new o, h) log' x' → Faultless log' →
    events id log' = events id log → (ledger id x'.1).Same id (ledger id x.1)

theorem refines_ledgers {o : Optimizer} {h : Host} {log : List Exchange} {x : LocalServer × Host}
    (hreached : Host.empty.Evolves h) (hsession : Session (LocalServer.new o, h) log x)
    (hfaultless : Faultless log) (id : String) : Refines o log x id := by
  have hsound : x.2.pool.Sound := hsession.evolves.sound (Host.sound_of_reached hreached)
  obtain ⟨l, hl, hsame⟩ := hsession.exists_ledger hfaultless id
  constructor
  · exact ⟨l, hl, hsame, accounted_of_run hl⟩
  · exact fun weights y hrun => pull_fills hsound hrun
  · intro h' log' x' hsession' hfaultless' hevents
    obtain ⟨l', hl', hsame'⟩ := hsession'.exists_ledger hfaultless' id
    rw [hevents] at hl'
    obtain rfl : l = l' := Except.ok.inj (hl.symm.trans hl')
    exact hsame'.symm.trans hsame

/-! ## A trial -/

/-- An optimizer that subtracts the gradient from the weight. -/
def subtracting : Optimizer :=
  { Optimizer.sgd with rule := .sgd (.int 0) (.int 0), rate := .int 1, rescale := .int 1 }

/-- A server before its first call, and two weights with a gradient for each. -/
def twoWeights : LocalServer × Host :=
  (LocalServer.new subtracting,
    hostWith [.zeros .float32 [2], .zeros .float64 [1], .ones .float32 [2], .ones .float64 [1]])

/-- Two parameters are trained, their calls taking turns. -/
def turns : List Request :=
  [.init "weight" [⟨0⟩], .init "bias" [⟨1⟩], .push "weight" [⟨2⟩] 0, .push "bias" [⟨3⟩] (-1),
    .push "weight" [⟨2⟩, ⟨2⟩] 0, .pull "weight" [⟨0⟩], .pull "bias" [⟨1⟩]]

/-- One parameter is trained, and then the other. -/
def blocks : List Request :=
  [.init "bias" [⟨1⟩], .push "bias" [⟨3⟩] (-1), .pull "bias" [⟨1⟩], .init "weight" [⟨0⟩],
    .push "weight" [⟨2⟩] 0, .push "weight" [⟨2⟩, ⟨2⟩] 0, .pull "weight" [⟨0⟩]]

/-- The weight has gone through both pushes of the trial, in whatever order the calls were made. -/
theorem refines_ledgers_turns :
    Faultless (perform twoWeights turns).1 ∧
    Refines subtracting (perform twoWeights turns).1 (perform twoWeights turns).2 "weight" ∧
    (ledger "weight" (perform twoWeights blocks).2.1).Same "weight"
      (ledger "weight" (perform twoWeights turns).2.1) := by
  have hreached : Host.empty.Evolves twoWeights.2 := reached_hostWith _
  have hturns : Faultless (perform twoWeights turns).1 := faultless_of_all (by decide +kernel)
  have hblocks : Faultless (perform twoWeights blocks).1 := faultless_of_all (by decide +kernel)
  have hevents : events "weight" (perform twoWeights blocks).1 =
      events "weight" (perform twoWeights turns).1 := by
    decide +kernel
  have hrefines : Refines subtracting (perform twoWeights turns).1 (perform twoWeights turns).2
      "weight" :=
    refines_ledgers hreached (session_perform twoWeights turns) hturns "weight"
  have hsame := hrefines.commutes _ _ _ (session_perform twoWeights blocks) hblocks hevents
  exact ⟨hturns, hrefines, hsame⟩

end LocalServer

end DataParallel

import DataParallel.Proofs.Server.Local
import Mathlib.Data.List.Induction

/-!
# The ledger of one parameter

A ledger is what is kept of a single parameter: its master, the sum of the gradients that wait
for the next pull, the priority of the last push, and an optimizer.  Its entries are the calls
that are about this parameter, with the contents of their arrays.  From the entries alone it can
be told which gradients each update is made of: those pushed since the pull before.
-/

namespace DataParallel

open Step

namespace LocalServer

/-- A call about one parameter, with the contents of its arrays. -/
inductive Event where
  /-- The first array, which may be closed. -/
  | init (first : Option Tensor)
  | push (grads : List Tensor) (priority : Int)
  | pull
  deriving DecidableEq

/-- What is kept of one parameter. -/
structure Ledger where
  master : Option Tensor
  pending : Option Tensor
  priority : Option Int
  optimizer : Optimizer

namespace Ledger

/-- The ledger of a parameter that is not registered. -/
def new (o : Optimizer) : Ledger := ⟨none, none, none, o⟩

/-- The master, which must be registered. -/
def weight (id : String) (l : Ledger) : Except Fault Tensor :=
  l.master.elim (.error (.unregistered id)) .ok

/-- The ledger after one more call.  The first contents become the master; gradients are added to
what is pending; a pull makes the next master of what is pending, if there is anything. -/
def enter (id : String) (l : Ledger) : Event → Except Fault Ledger
  | .init first => .ok { l with master := l.master.or first }
  | .push grads priority => do
    let _ ← l.weight id
    let pending ← due l.pending grads
    return { l with
      pending := pending
      priority := if grads = [] then l.priority else some priority }
  | .pull => do
    let (next, optimizer) :=
      (Optimizer.advance id (← l.weight id) l.pending).runFrom l.optimizer
    return { l with master := some (← next), pending := none, optimizer := optimizer }

/-- The ledger after some calls. -/
def run (id : String) (l : Ledger) (events : List Event) : Except Fault Ledger :=
  events.foldlM (enter id) l

/-- Two ledgers say the same of a parameter; their optimizers may differ in others. -/
structure Same (id : String) (l l' : Ledger) : Prop where
  master : l.master = l'.master
  pending : l.pending = l'.pending
  priority : l.priority = l'.priority
  optimizer : Optimizer.Agree id l.optimizer l'.optimizer

variable {id : String} {l l' l'' k : Ledger}

theorem Same.refl (id : String) (l : Ledger) : Same id l l := ⟨rfl, rfl, rfl, .refl id _⟩

theorem Same.symm (h : Same id l l') : Same id l' l :=
  ⟨h.master.symm, h.pending.symm, h.priority.symm, h.optimizer.symm⟩

theorem Same.trans (h : Same id l l') (h' : Same id l' l'') : Same id l l'' :=
  ⟨h.master.trans h'.master, h.pending.trans h'.pending, h.priority.trans h'.priority,
    h.optimizer.trans h'.optimizer⟩

theorem weight_eq_ok {w : Tensor} : l.weight id = .ok w ↔ l.master = some w := by
  rw [weight]
  cases l.master with
  | none => simp
  | some t => simp

/-! ## What a call enters -/

theorem enter_push {grads : List Tensor} {priority : Int}
    (h : enter id l (.push grads priority) = .ok k) :
    (∃ w, l.master = some w) ∧ due l.pending grads = .ok k.pending ∧ k.master = l.master ∧
      k.priority = (if grads = [] then l.priority else some priority) ∧
      k.optimizer = l.optimizer := by
  obtain ⟨w, hw, h⟩ := exists_of_bind_eq_ok h
  obtain ⟨pending, hpending, h⟩ := exists_of_bind_eq_ok h
  rw [← Except.ok.inj h]
  exact ⟨⟨w, weight_eq_ok.mp hw⟩, hpending, rfl, rfl, rfl⟩

theorem enter_pull (h : enter id l .pull = .ok k) :
    ∃ w next, l.master = some w ∧ k.master = some next ∧ k.pending = none ∧
      k.priority = l.priority ∧
      (Optimizer.advance id w l.pending).runFrom l.optimizer = (.ok next, k.optimizer) := by
  obtain ⟨w, hw, h⟩ := exists_of_bind_eq_ok h
  obtain ⟨next, hnext, h⟩ := exists_of_bind_eq_ok h
  rw [← Except.ok.inj h]
  exact ⟨w, next, weight_eq_ok.mp hw, rfl, rfl, rfl, Prod.ext hnext rfl⟩

theorem enter_of_pull {w next : Tensor} {o : Optimizer} (hw : l.master = some w)
    (hnext : (Optimizer.advance id w l.pending).runFrom l.optimizer = (.ok next, o)) :
    enter id l .pull = .ok { l with master := some next, pending := none, optimizer := o } := by
  rw [enter, weight_eq_ok.mpr hw]
  simp only [bind, Except.bind, hnext]
  rfl

theorem enter_of_push {w : Tensor} {grads : List Tensor} {priority : Int} {pending : Option Tensor}
    (hw : l.master = some w) (hpending : due l.pending grads = .ok pending) :
    enter id l (.push grads priority) = .ok { l with
      pending := pending
      priority := if grads = [] then l.priority else some priority } := by
  rw [enter, weight_eq_ok.mpr hw, hpending]
  rfl

/-- Nothing is entered that could not be told from what the ledger says of the parameter. -/
theorem Same.enter {e : Event} (h : Same id l l') (hk : enter id l e = .ok k) :
    ∃ k', Ledger.enter id l' e = .ok k' ∧ Same id k k' := by
  cases e with
  | init first =>
    refine ⟨_, rfl, ?_⟩
    rw [← Except.ok.inj hk]
    exact ⟨by rw [h.master], h.pending, h.priority, h.optimizer⟩
  | push grads priority =>
    obtain ⟨⟨w, hw⟩, hpending, hmaster, hpriority, hoptimizer⟩ := enter_push hk
    rw [h.master] at hw
    rw [h.pending] at hpending
    refine ⟨_, enter_of_push hw hpending, ?_, rfl, ?_, ?_⟩
    · rw [hmaster, h.master]
    · rw [hpriority, h.priority]
    · rw [hoptimizer]
      exact h.optimizer
  | pull =>
    obtain ⟨w, next, hw, hmaster, hpending, hpriority, hnext⟩ := enter_pull hk
    obtain ⟨o', hnext', hagree⟩ := Optimizer.advance_of_agree h.optimizer hnext
    rw [h.master] at hw
    rw [h.pending] at hnext'
    exact ⟨_, enter_of_pull hw hnext', hmaster, hpending, hpriority.trans h.priority, hagree⟩

end Ledger

/-! ## Which gradients an update is made of -/

/-- Takes a call to the rounds of the pulls so far and to the pushes that wait for the next one. -/
def sorted : List (List (List Tensor)) × List (List Tensor) → Event →
    List (List (List Tensor)) × List (List Tensor)
  | rounds, .init _ => rounds
  | (settled, waiting), .push grads _ => (settled, waiting ++ [grads])
  | (settled, waiting), .pull => (settled ++ [waiting], [])

/-- The rounds of the pulls and the pushes that wait: every round has the pushes since the pull
before, and every push the list of its gradients. -/
def rounds (events : List Event) : List (List (List Tensor)) × List (List Tensor) :=
  events.foldl sorted ([], [])

/-- The gradients of a call, if it is a push. -/
def Event.pushed : Event → Option (List Tensor)
  | push grads _ => some grads
  | _ => none

/-- The contents that a call registers, if they are there. -/
def Event.first : Event → Option Tensor
  | init first => first
  | _ => none

/-- What the pushes of a round add up to. -/
def gathered (round : List (List Tensor)) : Except Fault (Option Tensor) :=
  round.foldlM due none

theorem rounds_append (events : List Event) (e : Event) :
    rounds (events ++ [e]) = sorted (rounds events) e := by
  rw [rounds, List.foldl_append]
  rfl

/-- Every push stands in exactly one place: in the round of the next pull, or among those that
wait for it. -/
theorem flatten_rounds (events : List Event) :
    (rounds events).1.flatten ++ (rounds events).2 = events.filterMap Event.pushed := by
  induction events using List.reverseRecOn with
  | nil => rfl
  | append_singleton events e ih =>
    rw [rounds_append, List.filterMap_append, ← ih]
    cases e with
    | init first => simp [sorted, Event.pushed]
    | push grads priority => simp [sorted, Event.pushed]
    | pull => simp [sorted, Event.pushed]

/-- What a ledger holds is accounted for: the master by the rounds of the pulls, in their order,
and the pending gradient by the pushes that wait. -/
structure Accounted (id : String) (o : Optimizer) (events : List Event) (l : Ledger) : Prop where
  once : (rounds events).1.flatten ++ (rounds events).2 = events.filterMap Event.pushed
  waiting : gathered (rounds events).2 = .ok l.pending
  unregistered : events.findSome? Event.first = none →
    rounds events = ([], []) ∧ l.master = none ∧ l.optimizer = o
  trained : ∀ first, events.findSome? Event.first = some first →
    ∃ w, l.master = some w ∧
      (Optimizer.trainOn gathered id (rounds events).1 first).runFrom o = (.ok w, l.optimizer)

section Accounting

variable {id : String} {o : Optimizer} {events : List Event} {l k : Ledger}

theorem Accounted.registered (h : Accounted id o events l) {w : Tensor} (hw : l.master = some w) :
    ∃ first, events.findSome? Event.first = some first := by
  apply Option.ne_none_iff_exists'.mp
  intro hnone
  rw [(h.unregistered hnone).2.1] at hw
  cases hw

theorem Accounted.init (h : Accounted id o events l) (first : Option Tensor) :
    Accounted id o (events ++ [.init first]) { l with master := l.master.or first } := by
  have hrounds : rounds (events ++ [.init first]) = rounds events := rounds_append events _
  have hfirst : (events ++ [Event.init first]).findSome? Event.first =
      (events.findSome? Event.first).or first := by
    rw [List.findSome?_append, List.findSome?_singleton]
    rfl
  refine ⟨flatten_rounds _, ?_, ?_, ?_⟩
  · rw [hrounds]
    exact h.waiting
  · intro hnone
    rw [hfirst, Option.or_eq_none_iff] at hnone
    obtain ⟨hempty, hmaster, hoptimizer⟩ := h.unregistered hnone.1
    refine ⟨hrounds.trans hempty, ?_, hoptimizer⟩
    rw [hmaster, hnone.2]
    rfl
  · intro t ht
    rw [hfirst] at ht
    rw [hrounds]
    rcases hbefore : events.findSome? Event.first with _ | u
    · obtain ⟨hempty, hmaster, hoptimizer⟩ := h.unregistered hbefore
      rw [hbefore, Option.none_or] at ht
      refine ⟨t, ?_, ?_⟩
      · rw [hmaster, ht]
        rfl
      · rw [hempty, hoptimizer]
        rfl
    · rw [hbefore] at ht
      obtain rfl : u = t := Option.some.inj ht
      obtain ⟨w, hw, htrained⟩ := h.trained u hbefore
      refine ⟨w, ?_, htrained⟩
      rw [hw]
      rfl

theorem Accounted.push (h : Accounted id o events l) {grads : List Tensor} {priority : Int}
    (hk : l.enter id (.push grads priority) = .ok k) :
    Accounted id o (events ++ [.push grads priority]) k := by
  obtain ⟨⟨w, hw⟩, hpending, hmaster, -, hoptimizer⟩ := Ledger.enter_push hk
  obtain ⟨first, hregistered⟩ := h.registered hw
  have hfirst : (events ++ [Event.push grads priority]).findSome? Event.first = some first := by
    rw [List.findSome?_append, hregistered]
    rfl
  refine ⟨flatten_rounds _, ?_, ?_, ?_⟩
  · rw [rounds_append]
    show gathered ((rounds events).2 ++ [grads]) = .ok k.pending
    rw [gathered, List.foldlM_append, ← gathered, h.waiting]
    show [grads].foldlM due l.pending = .ok k.pending
    rw [List.foldlM_cons, hpending]
    rfl
  · intro hnone
    rw [hfirst] at hnone
    cases hnone
  · intro t ht
    rw [hfirst] at ht
    obtain rfl : first = t := Option.some.inj ht
    rw [rounds_append, hmaster, hoptimizer]
    exact h.trained first hregistered

theorem Accounted.pull (h : Accounted id o events l) (hk : l.enter id .pull = .ok k) :
    Accounted id o (events ++ [.pull]) k := by
  obtain ⟨w, next, hw, hmaster, hpending, -, hnext⟩ := Ledger.enter_pull hk
  obtain ⟨first, hregistered⟩ := h.registered hw
  have hfirst : (events ++ [Event.pull]).findSome? Event.first = some first := by
    rw [List.findSome?_append, hregistered]
    rfl
  refine ⟨flatten_rounds _, ?_, ?_, ?_⟩
  · rw [rounds_append, hpending]
    rfl
  · intro hnone
    rw [hfirst] at hnone
    cases hnone
  · intro t ht
    rw [hfirst] at ht
    obtain rfl : first = t := Option.some.inj ht
    obtain ⟨v, hv, htrained⟩ := h.trained first hregistered
    obtain rfl : w = v := Option.some.inj (hw.symm.trans hv)
    rw [rounds_append]
    exact ⟨next, hmaster, Optimizer.trainOn_append htrained h.waiting hnext⟩

/-- The account of a ledger, however long it was kept. -/
theorem accounted_of_run (hrun : (Ledger.new o).run id events = .ok l) :
    Accounted id o events l := by
  induction events using List.reverseRecOn generalizing l with
  | nil =>
    rw [← Except.ok.inj hrun]
    refine ⟨rfl, rfl, fun _ => ⟨rfl, rfl, rfl⟩, fun first hfirst => ?_⟩
    cases hfirst
  | append_singleton events e ih =>
    rw [Ledger.run, List.foldlM_append] at hrun
    obtain ⟨k, hk, hlast⟩ := exists_of_bind_eq_ok hrun
    have haccounted := ih hk
    rw [List.foldlM_cons] at hlast
    obtain ⟨l', hl', hend⟩ := exists_of_bind_eq_ok hlast
    obtain rfl : l' = l := Except.ok.inj hend
    cases e with
    | init first =>
      rw [← Except.ok.inj hl']
      exact haccounted.init first
    | push grads priority => exact haccounted.push hl'
    | pull => exact haccounted.pull hl'

end Accounting

end LocalServer

end DataParallel

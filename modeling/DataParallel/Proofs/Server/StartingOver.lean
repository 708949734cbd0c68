import DataParallel.Proofs.Optimizer.Forgetting
import DataParallel.Proofs.Server.FailedCall
import DataParallel.Proofs.Server.Unread

/-!
# Starting over after a close

A server that is closed keeps its counters, and nothing else of what it went through: the settings
of its optimizer are those that it began with, since no call changes them.  No call reads the
counters either.  So a closed server goes on like a new one, call by call, and its counters are
ahead by what they were when it was closed.
-/

namespace DataParallel

open Step

/-! ## Settings of an optimizer -/

namespace Optimizer

/-- What an optimizer would be after a reset is the same, so its settings are. -/
def SameSettings (o o' : Optimizer) : Prop := o'.reset = o.reset

instance : IsPreorder Optimizer SameSettings where
  refl _ := rfl
  trans _ _ _ h h' := Eq.trans h' h

theorem SameSettings.name_eq {o o' : Optimizer} (h : o.SameSettings o') : o'.name = o.name := by
  have hname : o'.reset.name = o.reset.name := congrArg name h
  exact hname

theorem SameSettings.hyperparameters_eq {o o' : Optimizer} (h : o.SameSettings o') :
    o'.hyperparameters = o.hyperparameters := by
  have hsettings : o'.reset.hyperparameters = o.reset.hyperparameters := congrArg hyperparameters h
  exact hsettings

theorem SameSettings.rule_eq {o o' : Optimizer} (h : o.SameSettings o') : o'.rule = o.rule := by
  have hrule : o'.reset.rule = o.reset.rule := congrArg rule h
  exact hrule

theorem SameSettings.rate_eq {o o' : Optimizer} (h : o.SameSettings o') : o'.rate = o.rate := by
  have hrate : o'.reset.rate = o.reset.rate := congrArg rate h
  exact hrate

theorem settings_along_update (id : String) (weight grad : Tensor) :
    Along SameSettings (update id weight grad) := by
  apply along_changes
  · exact fun _ _ _ _ => rfl
  · exact fun _ _ => rfl

theorem settings_along_advance (id : String) (weight : Tensor) (grad : Option Tensor) :
    Along SameSettings (advance id weight grad) := by
  cases grad with
  | none => exact along_pure weight
  | some grad => exact settings_along_update id weight grad

/-- Nothing has been asked of the optimizer, and no setting takes the place of an operation. -/
structure Fresh (o : Optimizer) : Prop where
  counts : o.counts = []
  state : o.state = []
  otherCounts : o.otherCounts = []
  taken : o.taken = []

/-- Every optimizer that is made by its name is fresh. -/
theorem fresh_ofName {name : String} {settings : List (String × Value)} {o : Optimizer}
    (h : ofName name settings = .ok o) : o.Fresh := by
  obtain ⟨hcounts, hstate⟩ := unused_ofName h
  refine ⟨hcounts, hstate, ?_, (sane_ofName h).taken⟩
  refine ofName_induction (P := fun o => o.otherCounts = []) (fun o name v _ ho => ?_) rfl rfl h
  rw [set]
  repeat' split
  all_goals exact ho

/-- The name of the rule and the settings tell what a reset leaves. -/
theorem Fresh.eq_reset {o o' : Optimizer} (ho' : o'.Fresh) (htaken : o.taken = [])
    (hname : o'.name = o.name) (hsettings : o'.hyperparameters = o.hyperparameters) :
    o' = o.reset := by
  obtain ⟨hrule, hrate, hrescale, hclip⟩ := settings_eq hname hsettings
  obtain ⟨rule, rate, rescale, clip, counts, state, otherCounts, taken⟩ := o'
  obtain ⟨rfl, rfl, rfl, rfl⟩ := ho'
  rw [reset, htaken]
  subst hrule hrate hrescale hclip
  rfl

end Optimizer

/-! ## Sessions with counters that are ahead -/

namespace LocalServer

section Ahead

variable {c : ServerCounters}

/-- By induction on the session, with the same requests of both servers. -/
theorem Session.ahead {x y : LocalServer × Host} {log : List Exchange} (h : Session x log y) :
    Session (besideMarked c id x) log (besideMarked c id y) := by
  induction h with
  | nil => exact .nil
  | call before r ih =>
    have hstep := ih.call r
    rw [r.mirrors_step] at hstep
    exact hstep
  | elsewhere before evolved ih => exact ih.elsewhere evolved

/-- All sessions of a server that is ahead are made in this way. -/
theorem Session.exists_behind {x y : LocalServer × Host} {log : List Exchange}
    (h : Session (besideMarked c id x) log y) : ∃ w, Session x log w ∧ y = besideMarked c id w := by
  induction h with
  | nil => exact ⟨x, .nil, rfl⟩
  | call before r ih =>
    obtain ⟨w, hw, rfl⟩ := ih
    rw [r.mirrors_step]
    exact ⟨_, hw.call r, rfl⟩
  | elsewhere before evolved ih =>
    obtain ⟨w, hw, rfl⟩ := ih
    exact ⟨_, hw.elsewhere evolved, rfl⟩

end Ahead

/-! ## Closing -/

theorem Settled.settings {id : String} {t : Tensor} {v w : LocalServer} (h : Settled id t v w) :
    v.optimizer.SameSettings w.optimizer := by
  obtain ⟨m, -, hrun⟩ := h.update
  exact (Optimizer.settings_along_advance id m _).of_run hrun

/-- The servers of two states have optimizers with the same settings. -/
def SameOptimizer (x y : LocalServer × Host) : Prop :=
  x.1.optimizer.SameSettings y.1.optimizer

instance : IsPreorder (LocalServer × Host) SameOptimizer where
  refl x := Std.Refl.refl (r := Optimizer.SameSettings) x.1.optimizer
  trans _ _ _ := IsTrans.trans (r := Optimizer.SameSettings) _ _ _

/-- No request changes a setting, whether it succeeds or fails. -/
theorem Request.settings_along (r : Request) : Along SameOptimizer r.step := by
  intro x
  cases r with
  | init id arrays =>
    rcases arrays with _ | ⟨a, rest⟩
    · rfl
    · obtain ⟨r, w, k, hrun, -, hlearns, -⟩ := runFrom_init id a rest x.1 x.2
      rw [SameOptimizer, Request.step, hrun, hlearns.optimizer]
      rfl
  | push id gradients priority =>
    rcases hrun : (LocalServer.push id gradients priority).runFrom x with ⟨fault | _, y⟩
    · obtain ⟨counters, hy⟩ := push_error hrun
      rw [SameOptimizer, Request.step, hrun, hy]
      rfl
    · obtain ⟨-, -, hgathered⟩ := push_ok hrun
      rw [SameOptimizer, Request.step, hrun, hgathered.optimizer]
      rfl
  | pull id weights =>
    rw [SameOptimizer, Request.step]
    rcases hrun : (LocalServer.pull id weights).runFrom x with ⟨fault | _, y⟩
    · rcases pull_error_cases hrun with ⟨-, -, rfl⟩ |
        ⟨w, grad, o, counters, -, -, hupdate, rfl⟩ | ⟨done, a, rest, w, -, hpulled, -⟩
      · rfl
      · exact (Optimizer.settings_along_update id w grad).of_run hupdate
      · obtain ⟨t, hsettled, -⟩ := pull_ok hpulled
        exact hsettled.settings
    · obtain ⟨t, hsettled, -⟩ := pull_ok hrun
      exact hsettled.settings
  | close => rfl

theorem Session.settings {start x : LocalServer × Host} {log : List Exchange}
    (h : Session start log x) : SameOptimizer start x := by
  induction h with
  | nil => rfl
  | call before r ih => exact IsTrans.trans (r := SameOptimizer) _ _ _ ih (r.settings_along _)
  | elsewhere before evolved ih => exact ih

/-- A closed server is a new one with a fresh optimizer of the same rule and settings, but for its
counters. -/
theorem Session.close_eq {o o' : Optimizer} {h : Host} {log : List Exchange}
    {x : LocalServer × Host} (hsession : Session (LocalServer.new o, h) log x)
    (ho : o.taken = []) (ho' : o'.Fresh) (hname : o'.name = x.1.optimizer.name)
    (hsettings : o'.hyperparameters = x.1.optimizer.hyperparameters) :
    x.1.close = marked x.1.counters id (LocalServer.new o') := by
  have hreset : x.1.optimizer.reset = o.reset := hsession.settings
  have htaken : x.1.optimizer.taken = [] := (congrArg Optimizer.taken hreset).trans ho
  rw [ho'.eq_reset htaken hname hsettings]
  rfl

/-- After a close, every later session is one that a new server with a new optimizer goes through,
request by request with the same results and the same hosts, and the other way round.  All that the
closed server holds is what the new one holds, but its counters are ahead by what they were before
the close. -/
theorem closed_starts_over {o o' : Optimizer} {h : Host} {log : List Exchange}
    {x : LocalServer × Host} (hsession : Session (LocalServer.new o, h) log x)
    (ho : o.taken = []) (ho' : o'.Fresh) (hname : o'.name = x.1.optimizer.name)
    (hsettings : o'.hyperparameters = x.1.optimizer.hyperparameters) (k : Host)
    (later : List Exchange) :
    (∀ y, Session (x.1.close, k) later y → ∃ w, Session (LocalServer.new o', k) later w ∧
      y = ({ w.1 with counters := x.1.counters.add w.1.counters }, w.2)) ∧
    ∀ w, Session (LocalServer.new o', k) later w →
      Session (x.1.close, k) later
        ({ w.1 with counters := x.1.counters.add w.1.counters }, w.2) := by
  have hclose : (x.1.close, k) = besideMarked x.1.counters id (LocalServer.new o', k) :=
    Prod.ext (hsession.close_eq ho ho' hname hsettings) rfl
  rw [hclose]
  exact ⟨fun y hy => hy.exists_behind, fun w hw => hw.ahead⟩

/-- After the trial in turns, the server is closed and goes through the trial in blocks. -/
theorem closed_starts_over_turns :
    Session (LocalServer.new subtracting, twoWeights.2) (perform twoWeights turns).1
      (perform twoWeights turns).2 ∧
    ∃ w, Session (LocalServer.new subtracting, twoWeights.2)
        (perform ((perform twoWeights turns).2.1.close, twoWeights.2) blocks).1 w ∧
      (perform ((perform twoWeights turns).2.1.close, twoWeights.2) blocks).2 =
        ({ w.1 with
          counters := (perform twoWeights turns).2.1.counters.add w.1.counters }, w.2) := by
  have hsession : Session (LocalServer.new subtracting, twoWeights.2) (perform twoWeights turns).1
      (perform twoWeights turns).2 := session_perform twoWeights turns
  have hsame : subtracting.SameSettings (perform twoWeights turns).2.1.optimizer :=
    hsession.settings
  obtain ⟨hlater, -⟩ := closed_starts_over hsession rfl ⟨rfl, rfl, rfl, rfl⟩ hsame.name_eq.symm
    hsame.hyperparameters_eq.symm twoWeights.2
    (perform ((perform twoWeights turns).2.1.close, twoWeights.2) blocks).1
  exact ⟨hsession, hlater _ (session_perform _ blocks)⟩

end LocalServer

end DataParallel

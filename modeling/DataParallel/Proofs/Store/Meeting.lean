import DataParallel.Proofs.Store.Between
import DataParallel.Proofs.Store.FailedTouch
import DataParallel.Proofs.Store.RefusedRound
import DataParallel.Store.Meeting

/-!
# Rounds between calls

A push or a pull carries the replicas that the entry has when it is made.  An entry that is placed
is not changed by any part of a call or a round, so a round that lists placed parameters only
carries an array for each slot in all that it makes.  A parameter that waits is not refused by the
check of a round, however, and is pushed with what it has.
-/

namespace DataParallel

open Step

/-! ## A round that is left alone -/

section Alone

variable {σ : Type} [ParameterServer σ]

namespace Store

theorem pushAll_cons (rank : Nat) (id : String) (rest : List String) :
    (pushAll rank (id :: rest) : Step (Store σ × Host) Unit) =
      pushOne rank id >>= fun _ => pushAll (rank + 1) rest := by
  simp only [pushAll, pushOne, bind_assoc]

theorem pullAll_cons (rank : Nat) (id : String) (rest : List String) :
    (pullAll rank (id :: rest) : Step (Store σ × Host) Unit) =
      pullOne rank id >>= fun _ => pullAll (rank + 1) rest := by
  simp only [pullAll, pullOne, bind_assoc]

end Store

/-- Left alone, the round does what the step does. -/
def Round.Does (round : Round) (step : Step (Store σ × Host) Unit) : Prop :=
  ∀ callers x, ∃ n, (⟨⟨callers, x⟩, round⟩ : Meeting σ).after (List.replicate n none) =
    ⟨⟨callers, (step.runFrom x).2⟩, .ended (step.runFrom x).1⟩

namespace Round

theorem does_ended (result : Except Fault Unit) :
    (ended result).Does (σ := σ) (.ofExcept result) :=
  fun _ _ => ⟨0, rfl⟩

theorem after_alone_succ {callers : List Caller} {x y : Store σ × Host} {round later : Round}
    (hadvance : round.advance x = (later, y)) (n : Nat) :
    (⟨⟨callers, x⟩, round⟩ : Meeting σ).after (List.replicate (n + 1) none) =
      (⟨⟨callers, y⟩, later⟩ : Meeting σ).after (List.replicate n none) := by
  have hturn : (⟨⟨callers, x⟩, round⟩ : Meeting σ).turn none = ⟨⟨callers, y⟩, later⟩ := by
    simp only [Meeting.turn, Meeting.shared, hadvance]
  simp only [Meeting.after, List.replicate_succ, List.foldl_cons, hturn]

/-- A part and what comes after it. -/
theorem does_part {α : Type} {round : Round} {part : Step (Store σ × Host) α} {later : α → Round}
    {step : α → Step (Store σ × Host) Unit}
    (hnext : round.next = part >>= fun a => pure (later a))
    (hlater : ∀ a, (later a).Does (step a)) : round.Does (part >>= step) := by
  intro callers x
  rcases hrun : part.runFrom x with ⟨fault | a, y⟩
  · have hadvance : round.advance x = (ended (.error fault), y) := by
      simp only [advance, hnext, runFrom_bind_of_error hrun]
    refine ⟨1, ?_⟩
    rw [after_alone_succ hadvance, runFrom_bind_of_error hrun]
    rfl
  · have hadvance : round.advance x = (later a, y) := by
      simp only [advance, hnext, runFrom_bind_of_ok hrun, runFrom_pure]
    obtain ⟨n, hn⟩ := hlater a callers y
    refine ⟨n + 1, ?_⟩
    rw [after_alone_succ hadvance, runFrom_bind_of_ok hrun, hn]

theorem does_pullAll (rank : Nat) (rest : List String) :
    (pulling rank rest).Does (σ := σ) (Store.pullAll rank rest) := by
  induction rest generalizing rank with
  | nil =>
    have hnext : (pulling rank []).next (σ := σ) = pure () >>= fun _ => pure (ended (.ok ())) := rfl
    exact does_part hnext fun _ => does_ended (.ok ())
  | cons id rest ih =>
    rw [Store.pullAll_cons]
    exact does_part rfl fun _ => ih (rank + 1)

theorem does_pushAll (ids : List String) (rank : Nat) (rest : List String) :
    (pushing ids rank rest).Does (σ := σ) (Store.pushAll rank rest >>= fun _ =>
      Store.pullAll 0 ids) := by
  induction rest generalizing rank with
  | nil =>
    have hnext : (pushing ids rank []).next (σ := σ) = pure () >>= fun _ => pure (pulling 0 ids) :=
      rfl
    exact does_part hnext fun _ => does_pullAll 0 ids
  | cons id rest ih =>
    rw [Store.pushAll_cons, bind_assoc]
    exact does_part rfl fun _ => ih (rank + 1)

/-- The parts of a round are those of `Store.updateAll`. -/
theorem does_updateAll : begun.Does (σ := σ) Store.updateAll := by
  intro callers x
  rcases hserver : x.1.server with _ | v
  · have hrun : Store.updateAll.runFrom x = (.error .noServer, x) := by
      simp [Store.updateAll, runFrom_bind, hserver]
    have hadvance : begun.advance x = (ended (.error .noServer), x) := by
      simp [advance, next, runFrom_bind, hserver]
    exact ⟨1, by rw [after_alone_succ hadvance, hrun]; rfl⟩
  · have hlisted : (listed x.1.trainable).Does (σ := σ) (Store.checkPlaced x.1.trainable >>=
        fun _ => Store.pushAll 0 x.1.trainable >>= fun _ => Store.pullAll 0 x.1.trainable) :=
      does_part rfl fun _ => does_pushAll x.1.trainable 0 x.1.trainable
    have hrun : Store.updateAll.runFrom x = (Store.checkPlaced x.1.trainable >>= fun _ =>
        Store.pushAll 0 x.1.trainable >>= fun _ =>
          Store.pullAll 0 x.1.trainable : Step (Store σ × Host) Unit).runFrom x := by
      simp only [Store.updateAll, runFrom_bind_of_ok (runFrom_get x), hserver, Option.isNone_some,
        Bool.false_eq_true, ↓reduceIte]
    have hadvance : begun.advance x = (listed x.1.trainable, x) := by
      simp [advance, next, runFrom_bind, hserver]
    obtain ⟨n, hn⟩ := hlisted callers x
    exact ⟨n + 1, by rw [after_alone_succ hadvance, hrun, hn]⟩

end Round

end Alone

/-! ## The middle of all -/

open Store

section Calm

variable {σ : Type} [ParameterServer σ] [Contained σ]

/-- A part of a round touches no entry. -/
theorem Round.keepsTable (round : Round) (x : Store σ × Host) :
    KeepsTable x (round.advance x).2 := by
  have hnext : Along KeepsTable (round.next : Step (Store σ × Host) Round) := by
    cases round with
    | begun =>
      refine along_bind along_get fun y => ?_
      dsimp only
      split
      · exact along_throw_bind _
      · exact along_pure _
    | listed ids => exact along_bind (along_checkPlaced ids) fun _ => along_pure _
    | pushing ids rank rest =>
      cases rest with
      | nil => exact along_pure _
      | cons id rest =>
        refine along_bind ?_ fun _ => along_pure _
        refine along_bind along_get fun y => ?_
        refine along_bind (along_gradients along_gradient _) fun gs => ?_
        exact along_onServer (Contained.push id gs _)
    | pulling rank rest =>
      cases rest with
      | nil => exact along_pure _
      | cons id rest =>
        refine along_bind ?_ fun _ => along_pure _
        exact along_bind along_get fun y => along_onServer (Contained.pull id _ _)
    | ended result => exact along_pure _
  have hkeeps := hnext x
  rw [Round.advance]
  split
  · next hrun => rwa [hrun] at hkeeps
  · next hrun => rwa [hrun] at hkeeps

/-- What holds of a round and calls in the middle of all. -/
structure Meeting.Calm (m : Meeting σ) : Prop where
  regular : Regular m.shared
  sane : ∀ c ∈ m.crowd.callers, c.Sane m.shared

theorem Meeting.Calm.turn {m : Meeting σ} (h : m.Calm) (who : Option Nat) :
    Onward m.shared (m.turn who).shared ∧ (m.turn who).Calm := by
  cases who with
  | none =>
    have honward : Onward m.shared (m.turn none).shared :=
      (m.round.keepsTable m.shared).onward h.regular
    exact ⟨honward, honward.regular, fun c hc => honward.sane (h.sane c hc)⟩
  | some i =>
    rcases hc : m.crowd.callers[i]? with _ | c
    · have hsame : m.turn (some i) = m := by
        rw [Meeting.turn, Crowd.turn_of_none hc]
      rw [hsame]
      exact ⟨.refl h.regular, h⟩
    · have hsane := h.sane c (List.mem_of_getElem? hc)
      have honward := c.onward h.regular hsane
      have hcrowd : (m.turn (some i)).crowd = ⟨m.crowd.callers.set i (c.advance m.shared).1,
          (c.advance m.shared).2⟩ := Crowd.turn_of_some hc
      have hshared : (m.turn (some i)).shared = (c.advance m.shared).2 := by
        rw [Meeting.shared, hcrowd]
      rw [hshared]
      refine ⟨honward, by rw [hshared]; exact honward.regular, fun d hd => ?_⟩
      rw [hcrowd] at hd
      rw [hshared]
      rcases List.mem_or_eq_of_mem_set hd with hold | rfl
      · exact honward.sane (h.sane d hold)
      · exact hsane.advance honward

end Calm

/-! ## What a round carries -/

section Carries

variable {σ : Type}

theorem checkPlaced_state (ids : List String) (x : Store σ × Host) :
    ∃ r, (checkPlaced ids).runFrom x = (r, x) := by
  by_cases hplaced : ∀ id ∈ ids, ∀ e, x.1.find? id = some e → e.failed = false
  · exact ⟨.ok (), checkPlaced_of_placed hplaced⟩
  · have hfailed : ∃ id ∈ ids, ∃ e, x.1.find? id = some e ∧ e.failed = true := by
      simpa using hplaced
    obtain ⟨id, hrun⟩ := checkPlaced_of_failed (h := x.2) hfailed
    exact ⟨_, hrun⟩

theorem gradients_state (arrays : List ArrayId) (x : Store σ × Host) :
    ∃ r, (gradients arrays).runFrom x = (r, x) ∧ ∀ gs, r = .ok gs → gs.length = arrays.length := by
  by_cases htracked : ∀ a ∈ arrays, (x.2.pool.gradient? a).isSome
  · have hgradients := Pool.tracked_filterMap htracked
    refine ⟨_, gradients_of_tracked hgradients, ?_⟩
    rintro _ ⟨⟩
    have hlength := congrArg List.length hgradients
    simpa using hlength.symm
  · have hnone : ∃ a ∈ arrays, x.2.pool.gradient? a = none := by simpa using htracked
    obtain ⟨fault, -, hrun⟩ := gradients_of_untracked hnone
    exact ⟨_, hrun, nofun⟩

/-- What a part of a round calls: each call is about a parameter that was still ahead, and carries
an array for each replica that the entry has at that moment. -/
def Carries (round : Round) (x : Store (Watched σ) × Host) (w : Watched σ)
    (y : Store (Watched σ) × Host) : Prop :=
  ∃ v calls, y.1.server = some ⟨v, w.calls ++ calls⟩ ∧ ∀ c ∈ calls,
    c.1.parameter ∈ round.ahead ∧ c.1.arrays.length = (x.1.replicas c.1.parameter).length

theorem carries_nothing (round : Round) {x : Store (Watched σ) × Host} {w : Watched σ}
    (hw : x.1.server = some w) : Carries round x w x :=
  ⟨w.server, [], by rw [List.append_nil]; exact hw, List.forall_mem_nil _⟩

variable [ParameterServer σ] {x : Store (Watched σ) × Host} {w : Watched σ}
  (hw : x.1.server = some w)

include hw

theorem carries_push (ids : List String) (rank : Nat) (id : String) (rest : List String) :
    Carries (.pushing ids rank (id :: rest)) x w ((pushOne rank id).runFrom x).2 := by
  obtain ⟨r, hgradients, hlength⟩ := gradients_state (x.1.replicas id) x
  rw [pushOne, runFrom_bind_of_ok (runFrom_get x)]
  rcases r with fault | gs
  · rw [runFrom_bind_of_error hgradients]
    exact carries_nothing _ hw
  · obtain ⟨r, v, k, hpush⟩ := Watched.runFrom_push id gs (Int.negOfNat rank) w x.2
    have hcall := runFrom_onServer (h := x.2) hw
      (ParameterServer.push id gs (Int.negOfNat rank))
    rw [hpush] at hcall
    rw [runFrom_bind_of_ok hgradients]
    refine ⟨v, [(⟨.push, id, gs, some (Int.negOfNat rank)⟩, r)], by rw [hcall], ?_⟩
    intro c hc
    obtain rfl := List.mem_singleton.mp hc
    exact ⟨List.mem_append_right _ List.mem_cons_self, hlength gs rfl⟩

theorem carries_pull (rank : Nat) (id : String) (rest : List String) :
    Carries (.pulling rank (id :: rest)) x w ((pullOne rank id).runFrom x).2 := by
  obtain ⟨r, v, k, hpull⟩ := Watched.runFrom_pull id (x.1.replicas id) (Int.negOfNat rank) w x.2
  have hcall := runFrom_onServer (h := x.2) hw
    (ParameterServer.pull id (x.1.replicas id) (Int.negOfNat rank))
  rw [hpull] at hcall
  rw [pullOne, runFrom_bind_of_ok (runFrom_get x)]
  refine ⟨v, [(⟨.pull, id, x.1.replicas id, some (Int.negOfNat rank)⟩, r)], by rw [hcall], ?_⟩
  intro c hc
  obtain rfl := List.mem_singleton.mp hc
  exact ⟨List.mem_cons_self, rfl⟩

theorem Round.carries (round : Round) : Carries round x w (round.advance x).2 := by
  have hstate : (round.advance x).2 = (round.next.runFrom x).2 := by
    rw [advance]
    split
    · next hrun => rw [hrun]
    · next hrun => rw [hrun]
  rw [hstate]
  cases round with
  | begun =>
    have hsame : (begun.next.runFrom x).2 = x := by simp [next, runFrom_bind, hw]
    rw [hsame]
    exact carries_nothing _ hw
  | listed ids =>
    obtain ⟨r, hcheck⟩ := checkPlaced_state ids x
    have hsame : ((listed ids).next.runFrom x).2 = x := by
      rcases r with fault | ⟨⟩
      · rw [next, runFrom_bind_of_error hcheck]
      · rw [next, runFrom_bind_of_ok hcheck]
        rfl
    rw [hsame]
    exact carries_nothing _ hw
  | pushing ids rank rest =>
    cases rest with
    | nil => exact carries_nothing _ hw
    | cons id rest =>
      rw [next, ← map_eq_pure_bind, runFrom_map]
      exact carries_push hw ids rank id rest
  | pulling rank rest =>
    cases rest with
    | nil => exact carries_nothing _ hw
    | cons id rest =>
      rw [next, ← map_eq_pure_bind, runFrom_map]
      exact carries_pull hw rank id rest
  | ended result => exact carries_nothing _ hw

end Carries

/-! ## Rounds over placed parameters -/

section Full

variable {σ : Type} [ParameterServer σ]

/-- A part either fails or goes on. -/
theorem Round.advance_cases {α : Type} {round : Round} {part : Step (Store σ × Host) α}
    {later : α → Round} (hnext : round.next = part >>= fun a => pure (later a))
    (x : Store σ × Host) :
    (∃ fault, (round.advance x).1 = .ended (.error fault)) ∨
      ∃ a, (round.advance x).1 = later a := by
  rcases hrun : part.runFrom x with ⟨fault | a, y⟩
  · exact .inl ⟨fault, by simp only [advance, hnext, runFrom_bind_of_error hrun]⟩
  · exact .inr ⟨a, by simp only [advance, hnext, runFrom_bind_of_ok hrun, runFrom_pure]⟩

/-- A round goes on with what was ahead of it, and begins with the trainable parameters. -/
theorem Round.ahead_advance (round : Round) (x : Store σ × Host) :
    (round.advance x).1.ahead ⊆ round.ahead ∨
      round = .begun ∧ (round.advance x).1 = .listed x.1.trainable := by
  have hpart : ∀ {α : Type} {part : Step (Store σ × Host) α} {later : α → Round},
      round.next = part >>= (fun a => pure (later a)) → (∀ a, (later a).ahead ⊆ round.ahead) →
      (round.advance x).1.ahead ⊆ round.ahead := by
    intro α part later hnext hlater
    rcases advance_cases hnext x with ⟨fault, hended⟩ | ⟨a, ha⟩
    · rw [hended]
      exact List.nil_subset _
    · rw [ha]
      exact hlater a
  cases round with
  | begun =>
    rcases hserver : x.1.server with _ | v
    · left
      have hended : (begun.advance x).1 = .ended (.error .noServer) := by
        simp [advance, next, runFrom_bind, hserver]
      rw [hended]
      exact List.nil_subset _
    · exact .inr ⟨rfl, by simp [advance, next, runFrom_bind, hserver]⟩
  | listed ids => exact .inl (hpart rfl fun _ => by simp [ahead])
  | pushing ids rank rest =>
    cases rest with
    | nil => exact .inl (List.subset_append_left ids [])
    | cons id rest => exact .inl (hpart rfl fun _ => by simp [ahead])
  | pulling rank rest =>
    cases rest with
    | nil => exact .inl (List.nil_subset _)
    | cons id rest => exact .inl (hpart rfl fun _ => List.subset_cons_self id rest)
  | ended result => exact .inl (List.nil_subset _)

/-- All parameters that a round still goes through are placed. -/
def Meeting.PlacedAhead (m : Meeting σ) : Prop :=
  ∀ id ∈ m.round.ahead, m.shared.1.isMaterialized id = true

/-- Whenever the round lists the trainable parameters in a schedule, all of them are placed. -/
def Meeting.ListsPlaced (start : Meeting σ) (turns : List (Option Nat)) : Prop :=
  ∀ before later, turns = before ++ none :: later → (start.after before).round = .begun →
    ∀ id ∈ (start.after before).shared.1.trainable,
      (start.after before).shared.1.isMaterialized id = true

variable [Contained σ]

theorem Meeting.PlacedAhead.turn {m : Meeting σ} (h : m.PlacedAhead) (hcalm : m.Calm)
    {who : Option Nat} (hbegin : who = none → m.round = .begun →
      ∀ id ∈ m.shared.1.trainable, m.shared.1.isMaterialized id = true) :
    (m.turn who).PlacedAhead := by
  obtain ⟨honward, -⟩ := hcalm.turn who
  cases who with
  | some i => exact fun id hid => honward.isMaterialized (h id hid)
  | none =>
    intro id hid
    apply honward.isMaterialized
    rcases m.round.ahead_advance m.shared with hsubset | ⟨hbegun, hlisted⟩
    · exact h id (hsubset hid)
    · have hahead : (m.turn none).round.ahead = m.shared.1.trainable :=
        congrArg Round.ahead hlisted
      exact hbegin rfl hbegun id (hahead ▸ hid)

theorem Meeting.Calm.after {start : Meeting σ} (hcalm : start.Calm) (hahead : start.PlacedAhead)
    {before later : List (Option Nat)} (hlists : start.ListsPlaced (before ++ later)) :
    (start.after before).Calm ∧ (start.after before).PlacedAhead ∧
      (start.after before).shared.1.registry = start.shared.1.registry := by
  induction before generalizing start with
  | nil => exact ⟨hcalm, hahead, rfl⟩
  | cons who before ih =>
    obtain ⟨honward, hnext⟩ := hcalm.turn who
    have hbegin : who = none → start.round = .begun →
        ∀ id ∈ start.shared.1.trainable, start.shared.1.isMaterialized id = true := by
      rintro rfl
      exact hlists [] (before ++ later) rfl
    have hlater : (start.turn who).ListsPlaced (before ++ later) := by
      intro first rest hturns
      exact hlists (who :: first) rest (congrArg (who :: ·) hturns)
    obtain ⟨hcalm', hahead', hregistry⟩ := ih hnext (hahead.turn hcalm hbegin) hlater
    exact ⟨hcalm', hahead', hregistry.trans honward.registry⟩

/-- In any order of the parts of a round and of calls, all that the round pushes and pulls carries
an array for each slot, if the trainable parameters are placed when the round lists them. -/
theorem Meeting.round_full {start : Meeting (Watched σ)} (hcalm : start.Calm)
    (hbegun : start.round = .begun) {turns : List (Option Nat)} (hlists : start.ListsPlaced turns)
    {before later : List (Option Nat)} (hturns : turns = before ++ none :: later) {w : Watched σ}
    (hw : (start.after before).shared.1.server = some w) :
    ∃ v calls,
      ((start.after before).turn none).shared.1.server = some ⟨v, w.calls ++ calls⟩ ∧
      ∀ c ∈ calls, c.1.arrays.length = start.shared.1.registry.devices.length := by
  have hahead : start.PlacedAhead := by
    intro id hid
    rw [hbegun] at hid
    cases hid
  obtain ⟨hnow, hplaced, hregistry⟩ := hcalm.after hahead (hturns ▸ hlists)
  obtain ⟨v, calls, hv, hcalls⟩ := (start.after before).round.carries hw
  refine ⟨v, calls, hv, fun c hc => ?_⟩
  obtain ⟨hmem, hlength⟩ := hcalls c hc
  have hm := hplaced _ hmem
  rcases hfind : (start.after before).shared.1.find? c.1.parameter with _ | e
  · simp [Store.isMaterialized, hfind] at hm
  · have he : e.materialized = true := by simpa [Store.isMaterialized, hfind] using hm
    have hfull : e.replicas.length = (start.after before).shared.1.registry.devices.length := by
      rcases hnow.regular.entries hfind with ⟨trainable, rfl⟩ | ⟨-, hno⟩ | ⟨-, -, hlength⟩
      · cases he
      · rw [hno] at he
        cases he
      · exact hlength
    rw [hlength, Store.replicas, hfind, Option.elim_some, hfull, hregistry]

/-- A call on one of two devices, and a round. -/
def trialMeeting : Meeting (Watched RecordingServer) where
  crowd :=
    { callers := [.begin trialParameter .cpu]
      shared := Move.after trialStart (.setServer (some ⟨.new, []⟩) [.cpu, .gpu]) }
  round := .begun

theorem calm_trialMeeting : trialMeeting.Calm where
  regular := by
    have hrun : Run (trialStart : Store (Watched RecordingServer) × Host) _ _ :=
      .snoc (.setServer (some ⟨.new, []⟩) [.cpu, .gpu]) .nil trivial
    exact (hrun.consistent begins_trialStart.consistent.1).regular rfl
  sane c hc := by
    obtain rfl := List.mem_singleton.mp hc
    apply Caller.Sane.of_begun rfl
    · decide
    · rintro a ⟨⟩
      exact Pool.has_of_contents? (t := Tensor.zeros .float32 [2]) (by rfl)

/-- The condition on the list is needed: between the second and the third part of the call its
parameter is listed, passes the check and is pushed without any array. -/
theorem Meeting.pushed_half_built :
    trialMeeting.Calm ∧ trialMeeting.shared.1.registry.devices.length = 2 ∧
    (trialMeeting.after [some 0, some 0, none, none, none]).shared.1.server.map Watched.calls =
      some [(⟨.push, "weight", [], some 0⟩, .ok ())] :=
  ⟨calm_trialMeeting, rfl, rfl⟩

end Full

end DataParallel

import DataParallel.Proofs.Store.FailedTouch
import DataParallel.Proofs.Store.Round

/-!
# Rounds that the store refuses

A round looks for failed entries before it calls the server, but for the
gradients of a parameter only when its turn comes.  A parameter with a replica
that has no gradient or is closed therefore ends the round after the parameters
before it were pushed.
-/

namespace DataParallel

open Step

namespace Store

variable {σ : Type}

/-- One replica without a gradient is enough to end the gathering. -/
theorem gradients_of_untracked {arrays : List ArrayId} {x : Store σ × Host}
    (h : ∃ b ∈ arrays, x.2.pool.gradient? b = none) :
    ∃ fault, (fault = .arrayClosed ∨ fault = .noGradient) ∧
      (gradients arrays).runFrom x = (.error fault, x) := by
  induction arrays with
  | nil =>
    obtain ⟨b, hmem, -⟩ := h
    cases hmem
  | cons a rest ih =>
    obtain ⟨s, k⟩ := x
    have hfirst : (Step.second (Host.onPool (Pool.gradient a)) :
        Step (Store σ × Host) ArrayId).runFrom (s, k) =
          (((Pool.gradient a).runFrom k.pool).1, s,
            { k with pool := ((Pool.gradient a).runFrom k.pool).2 }) := rfl
    rcases ha : k.pool.gradient? a with _ | g
    · obtain ⟨fault, hfault, hrun⟩ := Pool.runFrom_gradient_of_none ha
      rw [hrun] at hfirst
      exact ⟨fault, hfault, by rw [gradients, runFrom_bind_of_error hfirst]⟩
    · rw [Pool.runFrom_gradient_of_some ha] at hfirst
      have hrest : ∃ b ∈ rest, k.pool.gradient? b = none := by
        obtain ⟨b, hmem, hb⟩ := h
        rcases List.mem_cons.mp hmem with rfl | hmem
        · rw [ha] at hb
          cases hb
        · exact ⟨b, hmem, hb⟩
      obtain ⟨fault, hfault, hrun⟩ := ih hrest
      refine ⟨fault, hfault, ?_⟩
      rw [gradients, runFrom_bind_of_ok hfirst, runFrom_bind_of_error hrun]

variable [ParameterServer σ]

theorem pushAll_append (rank : Nat) (before rest : List String) :
    (pushAll rank (before ++ rest) : Step (Store σ × Host) Unit) =
      (do pushAll rank before
          pushAll (rank + before.length) rest) := by
  induction before generalizing rank with
  | nil => rfl
  | cons id before ih =>
    have hnext : rank + 1 + before.length = rank + (id :: before).length := by
      rw [List.length_cons]
      omega
    simp only [List.cons_append, pushAll, ih, bind_assoc, hnext]

/-- What a round over the trainable parameters `before ++ id :: after` has done
if a replica of `id` has no gradient or is closed. -/
structure CutRound (x : Store (Watched σ) × Host) (w : Watched σ) (before : List String)
    (r : Except Fault Unit × Store (Watched σ) × Host)
    (calls : List (Call × Except Fault Unit)) (pushed : Except Fault Unit) : Prop where
  /-- The parameters before were pushed in turn, up to the first push that failed. -/
  carried : Carried (inTurn .push (gradientsOf x) 0 before) calls pushed
  /-- The server has got no other call, and nothing else of the store has changed. -/
  store : ∃ v, r.2.1 = { x.1 with server := some v } ∧ v.calls = w.calls ++ calls
  /-- If no push failed, the round failed at the replica. -/
  refused : pushed = .ok () → r.1 = .error .arrayClosed ∨ r.1 = .error .noGradient
  /-- Otherwise it failed with the push. -/
  failed : ∀ fault, pushed = .error fault → r.1 = .error fault
  /-- With no parameter before, nothing has changed. -/
  unchanged : before = [] → r.2 = x

theorem updateAll_cut [KeepsGradients σ] {x : Store (Watched σ) × Host} {w : Watched σ}
    (hw : x.1.server = some w)
    (hplaced : ∀ id ∈ x.1.trainable, ∀ e, x.1.find? id = some e → e.failed = false)
    {before after : List String} {id : String} (hids : x.1.trainable = before ++ id :: after)
    (htracked : ∀ name ∈ before, ∀ b ∈ x.1.replicas name, (x.2.pool.gradient? b).isSome)
    (huntracked : ∃ b ∈ x.1.replicas id, x.2.pool.gradient? b = none) :
    ∃ calls pushed, CutRound x w before (updateAll.runFrom x) calls pushed := by
  obtain ⟨s, h⟩ := x
  have hG : ∀ name ∈ before, h.pool.Tracked (s.replicas name) (gradientsOf (s, h) name) :=
    fun name hmem => Pool.tracked_filterMap (htracked name hmem)
  obtain ⟨calls, pushed, v, k, hcarried, hkeeps, hpush⟩ := pushAll_carried 0 hw hG
  have hround : updateAll.runFrom (s, h) =
      (do pushAll 0 before
          (do pushAll (0 + before.length) (id :: after)
              pullAll 0 s.trainable) : Step (Store (Watched σ) × Host) Unit).runFrom (s, h) := by
    rw [updateAll_of_placed (Option.isSome_iff_exists.mpr ⟨w, hw⟩) hplaced]
    dsimp only at hids ⊢
    rw [hids, pushAll_append, bind_assoc]
  rw [hround]
  refine ⟨calls, pushed, ?_⟩
  rcases pushed with fault | ⟨⟩
  · rw [runFrom_bind_of_error hpush]
    refine ⟨hcarried, ⟨_, rfl, rfl⟩, fun hok => ?_, fun _ hfault => ?_, ?_⟩
    · cases hok
    · cases hfault
      rfl
    · rintro rfl
      cases hcarried
  · have hcut : ∃ b ∈ s.replicas id, k.pool.gradient? b = none := by
      rw [show k.pool.gradient? = h.pool.gradient? from hkeeps]
      exact huntracked
    generalize ht : ({ s with server := some ⟨v, w.calls ++ calls⟩ } : Store (Watched σ)) = t
      at hpush
    have hreplicas : t.replicas id = s.replicas id := by
      rw [← ht]
      rfl
    rw [← hreplicas] at hcut
    obtain ⟨fault, hfault, hgradients⟩ := gradients_of_untracked (x := (t, k)) hcut
    have hnext : (pushAll (0 + before.length) (id :: after)).runFrom (t, k) =
        (.error fault, t, k) := by
      rw [pushAll, runFrom_bind_of_ok (runFrom_get _)]
      exact runFrom_bind_of_error hgradients
    rw [runFrom_bind_of_ok hpush, runFrom_bind_of_error hnext]
    refine ⟨hcarried, ⟨_, ht.symm, rfl⟩, fun _ => ?_, fun _ hfailed => ?_, ?_⟩
    · rcases hfault with rfl | rfl
      · exact Or.inl rfl
      · exact Or.inr rfl
    · cases hfailed
    · rintro rfl
      exact (congrArg Prod.snd hpush).symm

/-- If a trainable entry is failed, a round is refused and changes nothing.  If
none is, but a replica of a trainable parameter has no gradient or is closed,
the parameters before the first such one were pushed, and only they. -/
theorem round_refused [KeepsGradients σ] {x : Store (Watched σ) × Host} {w : Watched σ}
    (hserver : x.1.server = some w) :
    ((∃ id ∈ x.1.trainable, ∃ e, x.1.find? id = some e ∧ e.failed = true) →
      ∃ id, updateAll.runFrom x = (.error (.partlyPlaced id), x)) ∧
    ((∀ id ∈ x.1.trainable, ∀ e, x.1.find? id = some e → e.failed = false) →
      (∃ id ∈ x.1.trainable, ∃ b ∈ x.1.replicas id, x.2.pool.gradient? b = none) →
      ∃ before id after, x.1.trainable = before ++ id :: after ∧
        (∀ name ∈ before, ∀ b ∈ x.1.replicas name, (x.2.pool.gradient? b).isSome = true) ∧
        (∃ b ∈ x.1.replicas id, x.2.pool.gradient? b = none) ∧
        ∃ calls pushed, CutRound x w before (updateAll.runFrom x) calls pushed) := by
  constructor
  · exact updateAll_of_failed (Option.isSome_iff_exists.mpr ⟨w, hserver⟩)
  · intro hplaced huntracked
    -- The first parameter with such a replica.
    have hsome : (x.1.trainable.find? fun id =>
        (x.1.replicas id).any fun b => (x.2.pool.gradient? b).isNone).isSome := by
      obtain ⟨id, hmem, b, hb, hnone⟩ := huntracked
      refine List.find?_isSome.mpr ⟨id, hmem, List.any_eq_true.mpr ⟨b, hb, ?_⟩⟩
      rw [hnone]
      rfl
    obtain ⟨id, hfirst⟩ := Option.isSome_iff_exists.mp hsome
    obtain ⟨hid, before, after, hids, hbefore⟩ := List.find?_eq_some_iff_append.mp hfirst
    have hid' : ∃ b ∈ x.1.replicas id, x.2.pool.gradient? b = none := by
      obtain ⟨b, hb, hnone⟩ := List.any_eq_true.mp hid
      exact ⟨b, hb, Option.isNone_iff_eq_none.mp hnone⟩
    have hbefore' : ∀ name ∈ before, ∀ b ∈ x.1.replicas name,
        (x.2.pool.gradient? b).isSome = true := by
      intro name hname b hb
      have hall := hbefore name hname
      rw [Bool.not_eq_true', List.any_eq_false] at hall
      rw [← Option.not_isNone, Bool.eq_false_iff.mpr (hall b hb)]
      rfl
    exact ⟨before, id, after, hids, hbefore', hid',
      updateAll_cut hserver hplaced hids hbefore' hid'⟩

/-! ## A round that was cut -/

/-- A second parameter, which was set up when it required no gradient, and its host. -/
def lateSetUp : Parameter × Host :=
  ((Parameter.adopt ⟨0⟩ (Tensor.zeros .float32 [2])).runFrom
    (Parameter.new "bias" (.text "bias") (.bool false), trackedHost)).2

/-- The second parameter, which requires a gradient after all. -/
def lateParameter : Parameter := { lateSetUp.1 with requiresGradient := .bool true }

/-- A store over one device that was asked for both parameters. -/
def uneven : Store (Watched RecordingServer) × Host :=
  Move.after (Move.after (Move.after (Move.after trialStart (.elsewhere id lateSetUp.2))
    (.setServer (some ⟨.new, []⟩) [.cpu])) (.getValue trialParameter .cpu))
    (.getValue lateParameter .cpu)

theorem run_uneven : ∃ moves, Run trialStart moves uneven := by
  have hhost : (trialStart : Store (Watched RecordingServer) × Host).2.Evolves lateSetUp.2 :=
    Pool.Evolves.trans evolves_trackedHost
      (Parameter.along_adopt ⟨0⟩ (Tensor.zeros .float32 [2])
        (Parameter.new "bias" (.text "bias") (.bool false), trackedHost))
  refine ⟨_, .snoc _ (.snoc _ (.snoc _ (.snoc _ .nil hhost) trivial) ?_) ?_⟩
  · rintro a ⟨⟩
    decide
  · rintro a ⟨⟩
    decide

/-- The round fails at the parameter without a gradient, and the one before it
was pushed. -/
theorem pushed_before_refused :
    (∃ start moves, Begins start ∧ Run start moves uneven) ∧
      uneven.1.server.map Watched.calls = some [registered "weight" [⟨0⟩],
        registered "bias" [⟨2⟩]] ∧
      (updateAll.runFrom uneven).1 = .error .noGradient ∧
      (updateAll.runFrom uneven).2.1.server.map Watched.calls = some [registered "weight" [⟨0⟩],
        registered "bias" [⟨2⟩], (⟨.push, "weight", [⟨1⟩], some 0⟩, .ok ())] := by
  obtain ⟨moves, hrun⟩ := run_uneven
  refine ⟨⟨trialStart, moves, begins_trialStart, hrun⟩, ?_, ?_, ?_⟩
  · rfl
  · rfl
  · rfl

theorem round_refused_trial :
    ∃ before id after calls pushed, ["weight", "bias"] = before ++ id :: after ∧
      (∃ b ∈ uneven.1.replicas id, uneven.2.pool.gradient? b = none) ∧
      Carried (inTurn .push (gradientsOf uneven) 0 before) calls pushed := by
  obtain ⟨w, hw⟩ := Option.isSome_iff_exists.mp (rfl : uneven.1.server.isSome = true)
  have hids : uneven.1.trainable = ["weight", "bias"] := by decide +kernel
  obtain ⟨before, id, after, hsplit, -, huntracked, calls, pushed, hcut⟩ :=
    (round_refused hw).2 (by decide +kernel) (by decide +kernel)
  exact ⟨before, id, after, calls, pushed, hids.symm.trans hsplit, huntracked, hcut.carried⟩

end Store

end DataParallel

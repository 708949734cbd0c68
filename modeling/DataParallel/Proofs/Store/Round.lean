import DataParallel.Proofs.Server.Tracking
import DataParallel.Proofs.Store.TouchOrder

/-!
# The calls of a round

A round has a list of calls that it means to make: a push for each trainable
parameter and then a pull for each of them.  It makes them in this order and
ends with the first one that fails.
-/

namespace DataParallel

open Step

/-- The calls that were made of a list of planned ones, and how this ended: all
of them if none failed, and otherwise those up to the first that failed. -/
inductive Carried : List Call → List (Call × Except Fault Unit) → Except Fault Unit → Prop where
  | done : Carried [] [] (.ok ())
  | next {c : Call} {planned : List Call} {calls : List (Call × Except Fault Unit)}
      {r : Except Fault Unit} :
    Carried planned calls r → Carried (c :: planned) ((c, .ok ()) :: calls) r
  | failed {c : Call} {planned : List Call} {fault : Fault} :
    Carried (c :: planned) [(c, .error fault)] (.error fault)

namespace Carried

variable {planned planned' : List Call} {calls calls' : List (Call × Except Fault Unit)}
  {r : Except Fault Unit}

/-- What was planned afterwards is carried out if nothing failed before. -/
theorem append (h : Carried planned calls (.ok ())) (h' : Carried planned' calls' r) :
    Carried (planned ++ planned') (calls ++ calls') r := by
  generalize hr : (Except.ok () : Except Fault Unit) = r' at h
  induction h with
  | done => exact h'
  | next _ ih => exact .next (ih hr)
  | failed => cases hr

/-- After a failure nothing more is carried out. -/
theorem append_of_error {fault : Fault} (h : Carried planned calls (.error fault))
    (planned' : List Call) : Carried (planned ++ planned') calls (.error fault) := by
  generalize hr : (Except.error fault : Except Fault Unit) = r' at h ⊢
  induction h with
  | done => cases hr
  | next _ ih => exact .next (ih hr)
  | failed => exact .failed

end Carried

namespace Store

variable {σ : Type}

/-- One call for each parameter, with priorities that go down by one. -/
def inTurn (kind : CallKind) (arrays : String → List ArrayId) (rank : Nat) (ids : List String) :
    List Call :=
  ids.mapIdx fun i id => ⟨kind, id, arrays id, some (-((rank + i : Nat) : Int))⟩

theorem inTurn_cons (kind : CallKind) (arrays : String → List ArrayId) (rank : Nat) (id : String)
    (rest : List String) : inTurn kind arrays rank (id :: rest) =
      ⟨kind, id, arrays id, some (Int.negOfNat rank)⟩ :: inTurn kind arrays (rank + 1) rest := by
  have hlater : (fun (i : Nat) name =>
      (⟨kind, name, arrays name, some (-((rank + (i + 1) : Nat) : Int))⟩ : Call)) =
      fun i name => ⟨kind, name, arrays name, some (-((rank + 1 + i : Nat) : Int))⟩ := by
    funext i name
    rw [Nat.add_comm i 1, Nat.add_assoc]
  rw [inTurn, inTurn, List.mapIdx_cons, Int.negOfNat_eq, hlater]
  rfl

/-! ## What is done before the calls -/

theorem checkPlaced_of_placed {ids : List String} {x : Store σ × Host}
    (h : ∀ id ∈ ids, ∀ e, x.1.find? id = some e → e.failed = false) :
    (checkPlaced ids).runFrom x = (.ok (), x) := by
  induction ids with
  | nil => rfl
  | cons id rest ih =>
    obtain ⟨hid, hrest⟩ := List.forall_mem_cons.mp h
    have hplaced : ¬ (x.1.find? id).any Entry.failed = true := by
      rcases hfind : x.1.find? id with _ | e
      · simp
      · simp [hid e hfind]
    rw [checkPlaced, runFrom_bind_of_ok (runFrom_get _)]
    dsimp only
    rw [if_neg hplaced]
    exact ih hrest

theorem gradients_of_tracked {arrays gs : List ArrayId} {x : Store σ × Host}
    (h : x.2.pool.Tracked arrays gs) : (gradients arrays).runFrom x = (.ok gs, x) := by
  induction arrays generalizing gs with
  | nil =>
    obtain rfl : gs = [] := List.map_eq_nil_iff.mp h.symm
    rfl
  | cons a rest ih =>
    rcases gs with _ | ⟨g, gs⟩
    · cases h
    · obtain ⟨hg, hrest⟩ := List.cons.inj h
      have hfirst : (Step.second (Host.onPool (Pool.gradient a)) :
          Step (Store σ × Host) ArrayId).runFrom x = (.ok g, x) := by
        obtain ⟨s, k⟩ := x
        rw [runFrom_second, Host.onPool, runFrom_within, Pool.runFrom_gradient_of_some hg]
      rw [gradients, runFrom_bind_of_ok hfirst, runFrom_bind_of_ok (ih hrest)]
      rfl

/-! ## The two passes -/

variable [ParameterServer σ]

/-- Parameters whose replicas have gradients are pushed in turn. -/
theorem pushAll_carried [KeepsGradients σ] (rank : Nat) {ids : List String}
    {G : String → List ArrayId} {s : Store (Watched σ)} {h : Host} {w : Watched σ}
    (hw : s.server = some w) (hG : ∀ id ∈ ids, h.pool.Tracked (s.replicas id) (G id)) :
    ∃ calls r v k, Carried (inTurn .push G rank ids) calls r ∧ h.SameGradients k ∧
      (pushAll rank ids).runFrom (s, h) =
        (r, { s with server := some ⟨v, w.calls ++ calls⟩ }, k) := by
  induction ids generalizing rank s h w with
  | nil =>
    refine ⟨[], .ok (), w.server, h, .done, rfl, ?_⟩
    rw [List.append_nil, ← hw]
    rfl
  | cons id rest ih =>
    obtain ⟨hid, hrest⟩ := List.forall_mem_cons.mp hG
    obtain ⟨r, v, k, hpush⟩ := Watched.runFrom_push id (G id) (Int.negOfNat rank) w h
    have hkeeps : k.pool.gradient? = h.pool.gradient? :=
      (KeepsGradients.push id (G id) (Int.negOfNat rank)).of_run hpush
    have hcall := runFrom_onServer (h := h) hw
      (ParameterServer.push id (G id) (Int.negOfNat rank))
    rw [hpush] at hcall
    rw [pushAll, runFrom_bind_of_ok (runFrom_get _),
      runFrom_bind_of_ok (gradients_of_tracked hid), inTurn_cons]
    rcases r with fault | ⟨⟩
    · exact ⟨_, _, v, k, .failed, hkeeps, by rw [runFrom_bind_of_error hcall]⟩
    · obtain ⟨calls, r, v', l, hcarried, hkeeps', hrun⟩ := ih (rank + 1) (h := k)
        (s := { s with server := some ⟨v, w.calls ++ [_]⟩ }) rfl
        fun name hmem => by
          rw [Pool.Tracked, hkeeps]
          exact hrest name hmem
      refine ⟨_, r, v', l, .next hcarried, hkeeps'.trans hkeeps, ?_⟩
      rw [runFrom_bind_of_ok hcall, hrun, List.append_assoc]
      rfl

/-- Parameters are pulled in turn into their replicas. -/
theorem pullAll_carried (rank : Nat) (ids : List String) {s : Store (Watched σ)} {h : Host}
    {w : Watched σ} (hw : s.server = some w) :
    ∃ calls r v k, Carried (inTurn .pull s.replicas rank ids) calls r ∧
      (pullAll rank ids).runFrom (s, h) =
        (r, { s with server := some ⟨v, w.calls ++ calls⟩ }, k) := by
  induction ids generalizing rank s h w with
  | nil =>
    refine ⟨[], .ok (), w.server, h, .done, ?_⟩
    rw [List.append_nil, ← hw]
    rfl
  | cons id rest ih =>
    obtain ⟨r, v, k, hpull⟩ := Watched.runFrom_pull id (s.replicas id) (Int.negOfNat rank) w h
    have hcall := runFrom_onServer (h := h) hw
      (ParameterServer.pull id (s.replicas id) (Int.negOfNat rank))
    rw [hpull] at hcall
    rw [pullAll, runFrom_bind_of_ok (runFrom_get _), inTurn_cons]
    rcases r with fault | ⟨⟩
    · exact ⟨_, _, v, k, .failed, by rw [runFrom_bind_of_error hcall]⟩
    · obtain ⟨calls, r, v', l, hcarried, hrun⟩ := ih (rank + 1) (h := k)
        (s := { s with server := some ⟨v, w.calls ++ [_]⟩ }) rfl
      refine ⟨_, r, v', l, .next hcarried, ?_⟩
      rw [runFrom_bind_of_ok hcall, hrun, List.append_assoc]
      rfl

/-! ## The round -/

/-- The gradients of the replicas of a parameter, in slot order. -/
def gradientsOf (x : Store σ × Host) (id : String) : List ArrayId :=
  (x.1.replicas id).filterMap x.2.pool.gradient?

/-- Without failed entries a round is its two passes. -/
theorem updateAll_of_placed {x : Store σ × Host} (hserver : x.1.server.isSome)
    (hplaced : ∀ id ∈ x.1.trainable, ∀ e, x.1.find? id = some e → e.failed = false) :
    updateAll.runFrom x =
      (do pushAll 0 x.1.trainable
          pullAll 0 x.1.trainable : Step (Store σ × Host) Unit).runFrom x := by
  obtain ⟨v, hv⟩ := Option.isSome_iff_exists.mp hserver
  rw [updateAll, runFrom_bind_of_ok (runFrom_get _)]
  simp only [hv, Option.isNone_some, Bool.false_eq_true, ↓reduceIte]
  rw [runFrom_bind_of_ok (checkPlaced_of_placed hplaced)]

/-- A round pushes all trainable parameters in turn and then pulls them, up to
the first call that fails, and changes nothing of the store but its server. -/
theorem updateAll_carried [KeepsGradients σ] {x : Store (Watched σ) × Host} {w : Watched σ}
    (hw : x.1.server = some w)
    (hplaced : ∀ id ∈ x.1.trainable, ∀ e, x.1.find? id = some e → e.failed = false)
    (htracked : ∀ id ∈ x.1.trainable, ∀ b ∈ x.1.replicas id, (x.2.pool.gradient? b).isSome) :
    ∃ calls r v k, Carried (inTurn .push (gradientsOf x) 0 x.1.trainable ++
        inTurn .pull x.1.replicas 0 x.1.trainable) calls r ∧
      updateAll.runFrom x = (r, { x.1 with server := some ⟨v, w.calls ++ calls⟩ }, k) := by
  obtain ⟨s, h⟩ := x
  have hG : ∀ id ∈ s.trainable, h.pool.Tracked (s.replicas id) (gradientsOf (s, h) id) :=
    fun id hmem => Pool.tracked_filterMap (htracked id hmem)
  obtain ⟨pushes, r, v, k, hpushes, -, hpush⟩ := pushAll_carried 0 hw hG
  rw [updateAll_of_placed (Option.isSome_iff_exists.mpr ⟨w, hw⟩) hplaced]
  rcases r with fault | ⟨⟩
  · refine ⟨pushes, .error fault, v, k, hpushes.append_of_error _, ?_⟩
    rw [runFrom_bind_of_error hpush]
  · obtain ⟨pulls, r, v', l, hpulls, hpull⟩ := pullAll_carried 0 s.trainable (h := k)
      (s := { s with server := some ⟨v, w.calls ++ pushes⟩ }) rfl
    refine ⟨pushes ++ pulls, r, v', l, hpushes.append hpulls, ?_⟩
    rw [runFrom_bind_of_ok hpush, hpull, List.append_assoc]

/-- After any run of a store, a round over replicas that have gradients makes
the calls that the moves of the run tell: the parameters come in the order of
their first touches since they were last dropped, and those that required a
gradient then are pushed and pulled. -/
theorem synchronization_trace [Contained σ] [KeepsGradients σ]
    {start x : Store (Watched σ) × Host} {moves : List (Move (Watched σ))}
    (hstart : Begins start) (hrun : Run start moves x) {w : Watched σ}
    (hserver : x.1.server = some w)
    (hready : ∀ id ∈ x.1.trainable, x.1.isMaterialized id = true ∧
      ∀ b ∈ x.1.replicas id, (x.2.pool.gradient? b).isSome = true) :
    ∃ ids, ids = (moves.foldl Touches.after ⟨start.1.registry.devices, []⟩).trainable ∧
      (∀ id ∈ ids, (x.1.replicas id).map x.2.pool.gradient? = (gradientsOf x id).map some) ∧
      ∃ calls r v k, updateAll.runFrom x = (r, { x.1 with server := some v }, k) ∧
        v.calls = w.calls ++ calls ∧
        Carried (inTurn .push (gradientsOf x) 0 ids ++ inTurn .pull x.1.replicas 0 ids) calls
          r := by
  obtain ⟨hbegin, hempty⟩ := hstart.consistent
  have hx := hrun.consistent hbegin
  have hids : x.1.trainable =
      (moves.foldl Touches.after ⟨start.1.registry.devices, []⟩).trainable := by
    have hfirst : start.1.touches = ⟨start.1.registry.devices, []⟩ := by
      rw [touches, hempty]
      rfl
    rw [← hfirst, ← hrun.touches hbegin, trainable_touches]
  have hplaced : ∀ id ∈ x.1.trainable, ∀ e, x.1.find? id = some e → e.failed = false := by
    intro id hmem e hfind
    have hm := (hready id hmem).1
    rw [isMaterialized, hfind, Option.any_some, hx.settled hfind] at hm
    simpa using hm
  have htracked := fun id hmem => (hready id hmem).2
  obtain ⟨calls, r, v, k, hcarried, hround⟩ := updateAll_carried hserver hplaced htracked
  refine ⟨x.1.trainable, hids, ?_, calls, r, ⟨v, w.calls ++ calls⟩, k, hround, rfl, hcarried⟩
  exact fun id hmem => Pool.tracked_filterMap (htracked id hmem)

/-! ## A round of two parameters -/

/-- A parameter that was given a new array, and the host with it. -/
def trialGiven (name : String) (tracked : Bool) (h : Host) : Parameter × Host :=
  ((Parameter.adopt ⟨0⟩ (Tensor.zeros .float32 [2])).runFrom
    (Parameter.new name (.text name) (.bool tracked), h)).2

theorem evolves_trialGiven (name : String) (tracked : Bool) (h : Host) :
    h.Evolves (trialGiven name tracked h).2 :=
  Parameter.along_adopt ⟨0⟩ (Tensor.zeros .float32 [2])
    (Parameter.new name (.text name) (.bool tracked), h)

/-- A parameter that is trained like the first one, and one that is not. -/
def trialBias : Parameter × Host := trialGiven "bias" true trackedHost

def trialFrozen : Parameter × Host := trialGiven "frozen" false trialBias.2

/-- A store over two devices is asked for all three parameters. -/
def trialMoves : List (Move (Watched RecordingServer)) :=
  [.elsewhere id trialFrozen.2, .setServer (some ⟨.new, []⟩) [.cpu, .gpu],
    .getValue trialParameter .gpu, .getValue trialFrozen.1 .gpu, .getValue trialBias.1 .cpu]

/-- The store afterwards. -/
def trialAsked : Store (Watched RecordingServer) × Host := trialMoves.foldl Move.after trialStart

theorem run_trialAsked : Run trialStart trialMoves trialAsked := by
  have hhost : (trialStart : Store (Watched RecordingServer) × Host).2.Evolves trialFrozen.2 :=
    Pool.Evolves.trans evolves_trackedHost (Pool.Evolves.trans
      (evolves_trialGiven "bias" true trackedHost) (evolves_trialGiven "frozen" false trialBias.2))
  have hserved : Run (trialStart : Store (Watched RecordingServer) × Host) _ _ :=
    .snoc (.setServer (some ⟨.new, []⟩) [.cpu, .gpu])
      (.snoc (.elsewhere id trialFrozen.2) .nil hhost) trivial
  have hasked : Run (trialStart : Store (Watched RecordingServer) × Host) _ _ :=
    .snoc (.getValue trialBias.1 .cpu) (.snoc (.getValue trialFrozen.1 .gpu)
      (.snoc (.getValue trialParameter .gpu) hserved (by rintro a ⟨⟩; decide))
      (by rintro a ⟨⟩; decide +kernel)) (by rintro a ⟨⟩; decide +kernel)
  exact hasked

theorem synchronization_trace_trial :
    ∃ (calls : List (Call × Except Fault Unit)) (r : Except Fault Unit)
      (v : Watched RecordingServer) (k : Host),
      updateAll.runFrom trialAsked = (r, { trialAsked.1 with server := some v }, k) ∧
      Carried [⟨.push, "weight", [⟨6⟩, ⟨1⟩], some 0⟩, ⟨.push, "bias", [⟨3⟩, ⟨10⟩], some (-1)⟩,
        ⟨.pull, "weight", [⟨5⟩, ⟨0⟩], some 0⟩, ⟨.pull, "bias", [⟨2⟩, ⟨9⟩], some (-1)⟩] calls r := by
  obtain ⟨w, hw⟩ := Option.isSome_iff_exists.mp (by decide +kernel : trialAsked.1.server.isSome)
  have hready : ∀ id ∈ trialAsked.1.trainable, trialAsked.1.isMaterialized id = true ∧
      ∀ b ∈ trialAsked.1.replicas id, (trialAsked.2.pool.gradient? b).isSome = true := by
    decide +kernel
  obtain ⟨ids, hids, -, calls, r, v, k, hround, -, hcarried⟩ :=
    synchronization_trace begins_trialStart run_trialAsked hw hready
  have hboth : ids = ["weight", "bias"] := hids.trans (by decide +kernel)
  have hplanned : inTurn .push (gradientsOf trialAsked) 0 ids ++
      inTurn .pull trialAsked.1.replicas 0 ids =
        [⟨.push, "weight", [⟨6⟩, ⟨1⟩], some 0⟩, ⟨.push, "bias", [⟨3⟩, ⟨10⟩], some (-1)⟩,
          ⟨.pull, "weight", [⟨5⟩, ⟨0⟩], some 0⟩, ⟨.pull, "bias", [⟨2⟩, ⟨9⟩], some (-1)⟩] := by
    rw [hboth]
    decide +kernel
  rw [hplanned] at hcarried
  exact ⟨calls, r, v, k, hround, hcarried⟩

end Store

end DataParallel

import DataParallel.Proofs.Optimizer.Interleaving
import DataParallel.Proofs.Optimizer.Memory

/-!
# Checkpoints

A snapshot stays what it was when it was taken, whatever its optimizer and the others go through
later, although they overwrite their arrays in memory.  An optimizer of the same rule that is
restored from it, whatever it was before, goes on as the first one would have gone on from there:
with the same weights, the same faults and the same snapshots.
-/

namespace DataParallel

namespace Optimizer

namespace Bench

open Step

/-! ## Calls -/

/-- What can be done with a bench.  An optimizer may come with any settings and any state. -/
inductive Call where
  | make (o : {o : Optimizer // o.Sane})
  | update (i : Nat) (u : Update)
  | forget (i : Nat) (id : String)
  | reset (i : Nat)
  | capture (i : Nat)
  | restore (i j : Nat)

/-- The bench after a step of an optimizer, if there is this optimizer. -/
def afterStep {α : Type} (b : Bench) (i : Nat) (step : Step Bench α) : Bench :=
  if i < b.optimizers.size then (step.runFrom b).2 else b

/-- The bench after a call, however it ended. -/
def Call.after (b : Bench) : Call → Bench
  | make o => b.make o
  | update i u => b.afterStep i (inPlace i u.step)
  | forget i id => b.afterStep i (inPlace i (modify (·.forget id) : Step Optimizer PUnit))
  | reset i => b.afterStep i (inPlace i (modify Optimizer.reset : Step Optimizer PUnit))
  | capture i => b.afterStep i (Bench.capture i)
  | restore i j => b.afterStep i (Bench.restore i j)

/-- The bench after some calls. -/
def afterAll (b : Bench) (calls : List Call) : Bench := calls.foldl Call.after b

/-- The updates of an optimizer, each with what it comes to and the snapshot that is taken then. -/
def trace (i : Nat) : Bench → List Update → List (Except Fault Tensor × Except Fault Snapshot)
  | _, [] => []
  | b, u :: rest =>
    let (result, b) := (inPlace i u.step).runFrom b
    (result, (b.optimizer i).report) :: trace i b rest

/-! ## What every bench is like -/

/-- Every optimizer is sane, and every snapshot was taken of a sane one. -/
structure Sound (b : Bench) : Prop where
  tidy : b.Tidy
  taken : ∀ i, (b.located i).body.taken = []
  genuine : ∀ j, ∃ o : Optimizer, o.Sane ∧ b.snapshot j = o.snapshot

theorem sound_empty : empty.Sound where
  tidy := by
    have hnone : ∀ w, empty.arrays w = [] := by
      intro w
      cases w with
      | optimizer i => rfl
      | snapshot j => rfl
    constructor
    · intro w a ha
      rw [hnone] at ha
      cases ha
    · intro w
      rw [hnone]
      exact List.nodup_nil
    · intro w
      rw [hnone]
      exact List.nodup_nil
    · intro w w' a ha
      rw [hnone] at ha
      cases ha
  taken _ := rfl
  genuine _ := ⟨sgd, ⟨rfl, List.nodup_nil⟩, rfl⟩

section Sound

variable {b : Bench}

theorem Sound.sane (hb : b.Sound) (i : Nat) : (b.optimizer i).Sane where
  taken := hb.taken i
  named := by
    have hnamed := hb.tidy.named (.optimizer i)
    rw [optimizer, Memory.map_fst_load]
    exact hnamed

section Settle

variable {i : Nat} {old : List (String × Address)} {o : Optimizer} (hb : b.Sound)
  (hold : old = [] ∨ old = (b.located i).arrays) (ho : o.Sane) (hi : i < b.optimizers.size)

include hb hold ho hi

theorem Sound.settle : (b.settle i old o).Sound := by
  have hconcerns := concerns_settle hb.tidy hold ho.named hi
  constructor
  · exact hconcerns.tidy hb.tidy
  · intro k
    rw [located_settle]
    split
    · exact ho.taken
    · exact hb.taken k
  · intro j
    rw [hconcerns.snapshot hb.tidy (by simp)]
    exact hb.genuine j

end Settle

theorem Sound.make (hb : b.Sound) {o : Optimizer} (ho : o.Sane) : (b.make o).Sound := by
  have hconcerns := concerns_make hb.tidy ho.named
  constructor
  · exact hconcerns.tidy hb.tidy
  · intro k
    rw [located_make]
    split
    · exact ho.taken
    · exact hb.taken k
  · intro j
    rw [hconcerns.snapshot hb.tidy (by simp)]
    exact hb.genuine j

theorem Sound.keep (hb : b.Sound) {o : Optimizer} (ho : o.Sane) : (b.keep o.snapshot).Sound := by
  have hconcerns := concerns_keep hb.tidy (s := o.snapshot) ho.named
  constructor
  · exact hconcerns.tidy hb.tidy
  · exact hb.taken
  · intro j
    by_cases hj : j = b.snapshots.size
    · rw [hj, snapshot_keep hb.tidy ho.named]
      exact ⟨o, ho, rfl⟩
    · rw [hconcerns.snapshot hb.tidy (by simpa using Ne.symm hj)]
      exact hb.genuine j

/-! ## Steps -/

theorem runFrom_inPlace {α : Type} (i : Nat) (step : Step Optimizer α) :
    (inPlace i step).runFrom b = ((step.runFrom (b.optimizer i)).1,
      b.settle i (b.located i).arrays (step.runFrom (b.optimizer i)).2) := rfl

theorem Sound.runFrom_capture (hb : b.Sound) (i : Nat) :
    (capture i).runFrom b = (.ok (), b.keep (b.optimizer i).snapshot) := by
  rw [capture, runFrom_bind_of_ok (runFrom_get b), (hb.sane i).report]
  rfl

/-- A snapshot can always be restored. -/
theorem Sound.runFrom_restore (hb : b.Sound) (i j : Nat) :
    (restore i j).runFrom b = (.ok (),
      b.settle i [] ((Optimizer.restore (b.snapshot j)).runFrom (b.optimizer i)).2) := by
  obtain ⟨o, ho, hj⟩ := hb.genuine j
  have hrun : ((Optimizer.restore (b.snapshot j)).runFrom (b.optimizer i)).1 = .ok () := by
    rw [hj, Optimizer.runFrom_restore (hb.sane i).taken]
  rw [restore, runFrom_make]
  dsimp only
  rw [hrun]

section InPlace

variable {α : Type} {step : Step Optimizer α} {i : Nat} (hb : b.Sound)
  (hstep : Along StaysSane step) (hi : i < b.optimizers.size)

include hb hstep hi

theorem Sound.inPlace : ((inPlace i step).runFrom b).2.Sound := by
  rw [runFrom_inPlace]
  exact hb.settle (Or.inr rfl) (hstep _ (hb.sane i)) hi

/-- In memory an optimizer becomes what it becomes by itself. -/
theorem Sound.optimizer_inPlace :
    ((Bench.inPlace i step).runFrom b).2.optimizer i = (step.runFrom (b.optimizer i)).2 := by
  rw [runFrom_inPlace]
  exact optimizer_settle hb.tidy (Or.inr rfl) (hstep _ (hb.sane i)).named hi

theorem Sound.concerns_inPlace :
    Concerns (.optimizer i) b ((Bench.inPlace i step).runFrom b).2 := by
  rw [runFrom_inPlace]
  exact concerns_settle hb.tidy (Or.inr rfl) (hstep _ (hb.sane i)).named hi

end InPlace

theorem optimizers_size_inPlace {α : Type} (i : Nat) (step : Step Optimizer α) :
    ((inPlace i step).runFrom b).2.optimizers.size = b.optimizers.size := by
  rw [runFrom_inPlace, settle]
  simp

theorem along_forget (id : String) :
    Along StaysSane (modify (·.forget id) : Step Optimizer PUnit) :=
  along_modify fun _ h => h.forget id

theorem along_reset : Along StaysSane (modify Optimizer.reset : Step Optimizer PUnit) :=
  along_modify fun _ h => h.reset

/-- Restoring leaves a sane optimizer. -/
theorem Sound.sane_restored (hb : b.Sound) (i j : Nat) :
    ((Optimizer.restore (b.snapshot j)).runFrom (b.optimizer i)).2.Sane := by
  obtain ⟨o, ho, hj⟩ := hb.genuine j
  rw [hj]
  exact (hb.sane i).restore ho

/-! ## Runs -/

theorem Sound.afterStep {α : Type} (hb : b.Sound) {i : Nat} {step : Step Bench α}
    (h : i < b.optimizers.size → (step.runFrom b).2.Sound) : (b.afterStep i step).Sound := by
  rw [Bench.afterStep]
  split
  · next hi => exact h hi
  · exact hb

theorem Sound.after (hb : b.Sound) (c : Call) : (c.after b).Sound := by
  cases c with
  | make o => exact hb.make o.2
  | update i u =>
    apply hb.afterStep
    exact hb.inPlace (sane_update u.id u.weight u.grad)
  | forget i id =>
    apply hb.afterStep
    exact hb.inPlace (along_forget id)
  | reset i =>
    apply hb.afterStep
    exact hb.inPlace along_reset
  | capture i =>
    apply hb.afterStep
    intro _
    rw [hb.runFrom_capture]
    exact hb.keep (hb.sane i)
  | restore i j =>
    apply hb.afterStep
    intro hi
    rw [hb.runFrom_restore]
    exact hb.settle (Or.inl rfl) (hb.sane_restored i j) hi

theorem Sound.afterAll (hb : b.Sound) (calls : List Call) : (b.afterAll calls).Sound := by
  induction calls generalizing b with
  | nil => exact hb
  | cons c rest ih => exact ih (hb.after c)

end Sound

/-! ## Snapshots stay -/

/-- Nothing disappears, and every snapshot reads what it read. -/
structure Follows (b b' : Bench) : Prop where
  optimizers_le : b.optimizers.size ≤ b'.optimizers.size
  snapshots_le : b.snapshots.size ≤ b'.snapshots.size
  snapshot : ∀ {j}, j < b.snapshots.size → b'.snapshot j = b.snapshot j

section Follows

variable {b b' b'' : Bench}

theorem Follows.refl (b : Bench) : Follows b b :=
  ⟨Nat.le_refl _, Nat.le_refl _, fun _ => rfl⟩

theorem Follows.trans (h : Follows b b') (h' : Follows b' b'') : Follows b b'' where
  optimizers_le := Nat.le_trans h.optimizers_le h'.optimizers_le
  snapshots_le := Nat.le_trans h.snapshots_le h'.snapshots_le
  snapshot hj := (h'.snapshot (Nat.lt_of_lt_of_le hj h.snapshots_le)).trans (h.snapshot hj)

/-- An optimizer writes at none of the addresses of a snapshot. -/
theorem Concerns.follows {w : Owner} (h : Concerns w b b') (hb : b.Tidy)
    (hw : ∀ j < b.snapshots.size, w ≠ .snapshot j) : Follows b b' where
  optimizers_le := h.optimizers_le
  snapshots_le := h.snapshots_le
  snapshot hj := h.snapshot hb (hw _ hj)

theorem follows_afterStep {α : Type} {i : Nat} {step : Step Bench α}
    (h : i < b.optimizers.size → Follows b (step.runFrom b).2) :
    Follows b (b.afterStep i step) := by
  rw [afterStep]
  split
  · next hi => exact h hi
  · exact Follows.refl b

theorem Sound.follows_inPlace {α : Type} {step : Step Optimizer α} {i : Nat} (hb : b.Sound)
    (hstep : Along StaysSane step) : Follows b (b.afterStep i (Bench.inPlace i step)) := by
  apply follows_afterStep
  intro hi
  exact (hb.concerns_inPlace hstep hi).follows hb.tidy (by simp)

theorem Sound.follows_capture (hb : b.Sound) (i : Nat) :
    Follows b (b.keep (b.optimizer i).snapshot) := by
  apply (concerns_keep hb.tidy (hb.sane i).named).follows hb.tidy
  intro j hj h
  rw [Owner.snapshot.inj h] at hj
  exact Nat.lt_irrefl _ hj

theorem Sound.follows_after (hb : b.Sound) (c : Call) : Follows b (c.after b) := by
  cases c with
  | make o => exact (concerns_make hb.tidy o.2.named).follows hb.tidy (by simp)
  | update i u => exact hb.follows_inPlace (sane_update u.id u.weight u.grad)
  | forget i id => exact hb.follows_inPlace (along_forget id)
  | reset i => exact hb.follows_inPlace along_reset
  | capture i =>
    apply follows_afterStep
    intro _
    rw [hb.runFrom_capture]
    exact hb.follows_capture i
  | restore i j =>
    apply follows_afterStep
    intro hi
    rw [hb.runFrom_restore]
    exact (concerns_settle hb.tidy (Or.inl rfl) (hb.sane_restored i j).named hi).follows hb.tidy
      (by simp)

theorem Sound.follows_afterAll (hb : b.Sound) (calls : List Call) :
    Follows b (b.afterAll calls) := by
  induction calls generalizing b with
  | nil => exact Follows.refl b
  | cons c rest ih => exact (hb.follows_after c).trans (ih (hb.after c))

end Follows

/-! ## Going on -/

/-- Optimizers that are the same, wherever their arrays lie, go on in the same way. -/
theorem Sound.trace_eq {b b' : Bench} (hb : b.Sound) (hb' : b'.Sound) {i k : Nat}
    (hi : i < b.optimizers.size) (hk : k < b'.optimizers.size)
    (hsame : b'.optimizer k = b.optimizer i) (updates : List Update) :
    b'.trace k updates = b.trace i updates := by
  induction updates generalizing b b' with
  | nil => rfl
  | cons u rest ih =>
    have hstep : Along StaysSane u.step := sane_update u.id u.weight u.grad
    have hresult : ((Bench.inPlace k u.step).runFrom b').1 =
        ((Bench.inPlace i u.step).runFrom b).1 := by
      rw [runFrom_inPlace, runFrom_inPlace, hsame]
    have hnext : ((Bench.inPlace k u.step).runFrom b').2.optimizer k =
        ((Bench.inPlace i u.step).runFrom b).2.optimizer i := by
      rw [hb'.optimizer_inPlace hstep hk, hb.optimizer_inPlace hstep hi, hsame]
    have hrest := ih (hb.inPlace hstep hi) (hb'.inPlace hstep hk)
      (by rwa [optimizers_size_inPlace]) (by rwa [optimizers_size_inPlace]) hnext
    rw [Bench.trace, Bench.trace]
    dsimp only
    rw [hresult, hnext, hrest]

theorem afterAll_append (b : Bench) (before later : List Call) :
    b.afterAll (before ++ later) = (b.afterAll before).afterAll later :=
  List.foldl_append

/-- A snapshot of an optimizer that calls led to reads later, after whatever other calls, what it
read at first; and an optimizer of the same rule, with whatever settings and state, that is restored
from it goes on as the first one would have gone on from the moment when the snapshot was taken. -/
theorem checkpoint_faithful (before between : List Call) {i k : Nat}
    (hi : i < (empty.afterAll before).optimizers.size)
    (hk : k < (empty.afterAll (before ++ .capture i :: between)).optimizers.size)
    (hrule : ((empty.afterAll (before ++ .capture i :: between)).optimizer k).name =
      ((empty.afterAll before).optimizer i).name) :
    let b := empty.afterAll before
    let later := empty.afterAll (before ++ .capture i :: between)
    let s := b.snapshots.size
    (b.optimizer i).report = .ok (later.snapshot s) ∧
      ((restore k s).runFrom later).1 = .ok () ∧
      ∀ updates, ((restore k s).runFrom later).2.trace k updates = b.trace i updates := by
  intro b later s
  have hb : b.Sound := sound_empty.afterAll before
  have hcaptured : (Call.capture i).after b = b.keep (b.optimizer i).snapshot := by
    rw [Call.after, afterStep, if_pos hi, hb.runFrom_capture]
  have hlater : later = (b.keep (b.optimizer i).snapshot).afterAll between := by
    rw [← hcaptured]
    exact afterAll_append empty before (.capture i :: between)
  have hkept : (b.keep (b.optimizer i).snapshot).Sound := hb.keep (hb.sane i)
  have hsound : later.Sound := sound_empty.afterAll _
  -- The snapshot is the first of those that came after, and stays.
  have hread : later.snapshot s = (b.optimizer i).snapshot := by
    have hnew : s < (b.keep (b.optimizer i).snapshot).snapshots.size := by
      rw [keep]
      simp [s]
    rw [hlater, (hkept.follows_afterAll between).snapshot hnew]
    exact snapshot_keep hb.tidy (hb.sane i).named
  have hrestored : (Optimizer.restore (later.snapshot s)).runFrom (later.optimizer k) =
      (.ok (), b.optimizer i) := by
    rw [hread]
    exact runFrom_restore_same (hsound.sane k).taken (hb.sane i).taken hrule
  have hrun : (restore k s).runFrom later = (.ok (), later.settle k [] (b.optimizer i)) := by
    rw [hsound.runFrom_restore, hrestored]
  refine ⟨?_, ?_, ?_⟩
  · rw [(hb.sane i).report, hread]
  · rw [hrun]
  · intro updates
    rw [hrun]
    apply hb.trace_eq
    · exact hsound.settle (Or.inl rfl) (hb.sane i) hk
    · exact hi
    · rw [settle]
      simpa using hk
    · exact optimizer_settle hsound.tidy (Or.inl rfl) (hb.sane i).named hk

/-! ## A trial -/

/-- An optimizer that keeps a velocity. -/
def rolling : {o : Optimizer // o.Sane} :=
  ⟨{ sgd with rule := .sgd (.int 1) (.int 0), rate := .int 1, rescale := .int 1 },
    rfl, List.nodup_nil⟩

/-- An optimizer that keeps none. -/
def plain : {o : Optimizer // o.Sane} := ⟨sgd, rfl, List.nodup_nil⟩

/-- An update that makes or changes the velocity. -/
def push : Update := ⟨"weight", .zeros .int64 [1], .ones .int64 [1]⟩

/-- Two optimizers, the first of which has a velocity. -/
def rolled : List Call := [.make rolling, .make plain, .update 0 push]

/-- The first optimizer goes on, and the second one begins. -/
def rollOn : List Call := [.update 0 push, .forget 0 "weight", .update 1 push]

theorem checkpoint_faithful_rolled :
    let later := empty.afterAll (rolled ++ .capture 0 :: rollOn)
    ((empty.afterAll rolled).optimizer 0).report = .ok (later.snapshot 0) ∧
      ((restore 1 0).runFrom later).2.trace 1 [push, push] =
        (empty.afterAll rolled).trace 0 [push, push] := by
  have hsize : (empty.afterAll rolled).snapshots.size = 0 := by decide +kernel
  obtain ⟨hread, -, htrace⟩ :=
    checkpoint_faithful rolled rollOn (i := 0) (k := 1) (by decide +kernel) (by decide +kernel)
      (by decide +kernel)
  rw [hsize] at hread htrace
  exact ⟨hread, htrace [push, push]⟩

/-- The velocity is overwritten where it lies, and the copy of the snapshot is not. -/
example :
    let taken := empty.afterAll [.make rolling, .update 0 push, .capture 0]
    let later := taken.afterAll [.update 0 push]
    taken.memory.read ⟨0⟩ = .ones .int64 [1] ∧ later.memory.read ⟨0⟩ ≠ .ones .int64 [1] ∧
      later.memory.read ⟨1⟩ = .ones .int64 [1] := by
  decide +kernel

end Bench

end Optimizer

end DataParallel

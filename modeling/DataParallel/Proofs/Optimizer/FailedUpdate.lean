import DataParallel.Proofs.Optimizer.Forgetting
import DataParallel.Proofs.Optimizer.Writes
import DataParallel.Proofs.Tensor.Broadcast

/-!
# Failed updates

An update that fails is counted all the same.  It changes nothing of other parameters, and unless
its gradient has entered the arrays of its own parameter, these are as they were or newly made.  So
the count of a parameter, which Adam corrects its averages by, is the number of updates that have
entered the averages and of those that were lost.
-/

namespace DataParallel

namespace Optimizer

open Step

/-! ## Optimizers that can be reached -/

/-- Optimizers that are made by name and then updated, whether the updates succeed or not, cleared
of one or all parameters, and restored from snapshots of each other. -/
inductive Reached : Optimizer → Prop where
  | made {name : String} {settings : List (String × Value)} {o : Optimizer}
      (h : ofName name settings = .ok o) : Reached o
  | updated {o : Optimizer} (h : Reached o) (u : Update) : Reached (u.after o)
  | forgotten {o : Optimizer} (h : Reached o) (id : String) : Reached (o.forget id)
  | cleared {o : Optimizer} (h : Reached o) : Reached o.reset
  | restored {o s : Optimizer} (h : Reached o) (hs : Reached s) :
      Reached ((restore s.snapshot).runFrom o).2

/-- The averages of a parameter have one shape, or there are none. -/
def Paired (o : Optimizer) (id : String) : Prop :=
  (o.state.lookup (key id "m")).map Tensor.shape = (o.state.lookup (key id "v")).map Tensor.shape

/-- What holds of every optimizer that can be reached. -/
structure Regular (o : Optimizer) : Prop where
  sane : o.Sane
  counted : ∀ id, ∃ n : Nat, o.count id = .int n
  paired : ∀ id, o.Paired id

section Regular

variable {o s : Optimizer}

theorem Regular.of_unused (ho : o.Sane) (hcounts : o.counts = []) (hstate : o.state = []) :
    o.Regular where
  sane := ho
  counted id := ⟨0, by rw [count, hcounts]; rfl⟩
  paired id := by rw [Paired, hstate]; rfl

theorem Regular.forget (h : o.Regular) (id : String) : (o.forget id).Regular where
  sane := h.sane.forget id
  counted other := by
    by_cases hother : other = id
    · rw [hother]
      exact ⟨0, o.count_forget_self id⟩
    · rw [o.count_forget hother]
      exact h.counted other
  paired other := by
    by_cases hgone : other = id ∨ Under id other
    · rw [Paired, o.lookup_forget_eq_none hgone (by simp [parts]),
        o.lookup_forget_eq_none hgone (by simp [parts])]
    · obtain ⟨hother, hunder⟩ := not_or.mp hgone
      rw [Paired, o.lookup_forget hother hunder (by simp [parts]),
        o.lookup_forget hother hunder (by simp [parts])]
      exact h.paired other

theorem Regular.restore (h : o.Regular) (hs : s.Regular) :
    ((Optimizer.restore s.snapshot).runFrom o).2.Regular where
  sane := h.sane.restore hs.sane
  counted := by
    rw [runFrom_restore h.sane.taken]
    exact hs.counted
  paired := by
    rw [runFrom_restore h.sane.taken]
    exact hs.paired

/-! ## Averages stay in step -/

theorem Regular.next (h : o.Regular) (id : String) :
    ∃ n : Nat, o.count id = .int n ∧ Optimizer.counted (o.count id) = .ok (.int (n + 1 : Nat)) := by
  obtain ⟨n, hn⟩ := h.counted id
  exact ⟨n, hn, by rw [hn]; rfl⟩

theorem shape_averagedOn {beta : Value} {old new t : Tensor}
    (h : averagedOn beta old new = .ok t) : t.shape = old.shape := by
  obtain ⟨value, -, ht⟩ := exists_of_bind_eq_ok h
  exact Tensor.shape_assign ht

theorem shape_arrayOf (o : Optimizer) (id part : String) (weight : Tensor) :
    (o.arrayOf id part weight).shape =
      ((o.state.lookup (key id part)).map Tensor.shape).getD weight.shape := by
  rw [arrayOf]
  rcases o.state.lookup (key id part) with _ | t
  · rfl
  · rfl

theorem Paired.shape_arrayOf {id : String} (h : o.Paired id) (weight : Tensor) :
    (o.arrayOf id "m" weight).shape = (o.arrayOf id "v" weight).shape := by
  rw [Optimizer.shape_arrayOf, Optimizer.shape_arrayOf, h]

/-- What Adam leaves of an average has the shape of what it began with. -/
theorem Regular.shape_after (h : o.Regular) (u : Update) {beta₁ beta₂ : Value} {grad : Tensor}
    (hwrites : o.writes u = .ok (o.adamWrites beta₁ beta₂ u.id u.weight grad)) {part : String}
    (hpart : part = "m" ∨ part = "v") :
    ((u.after o).state.lookup (key u.id part)).map Tensor.shape =
      some (o.arrayOf u.id part u.weight).shape := by
  obtain ⟨n, -, hn⟩ := h.next u.id
  have hmem : part ∈ (o.adamWrites beta₁ beta₂ u.id u.weight grad).map Prod.fst := by
    simpa [adamWrites] using hpart
  rcases lookup_after_of_mem h.sane.taken u hn hwrites hmem with hmade | ⟨t, ht, hwritten⟩
  · rw [hmade]
    rfl
  · rw [hwritten]
    simp only [adamWrites, List.mem_cons, Prod.mk.injEq, List.not_mem_nil, or_false] at ht
    rcases ht with ⟨rfl, ht⟩ | ⟨rfl, ht⟩
    · exact congrArg some (shape_averagedOn ht.symm)
    · exact congrArg some (shape_averagedOn ht.symm)

/-- What is written goes by the rule: nothing, a velocity, or both averages. -/
theorem writes_cases {u : Update} {entries : Writes} (hwrites : o.writes u = .ok entries) :
    entries = [] ∨ (∃ velocity, entries = [("velocity", velocity)]) ∨
      ∃ beta₁ beta₂ epsilon grad, o.rule = .adam beta₁ beta₂ epsilon ∧
        entries = o.adamWrites beta₁ beta₂ u.id u.weight grad := by
  obtain ⟨grad, -, hrule⟩ := exists_of_bind_eq_ok hwrites
  rcases ho : o.rule with ⟨momentum, decay⟩ | ⟨beta₁, beta₂, epsilon⟩
  · rw [ho] at hrule
    obtain ⟨g, -, hentries⟩ := exists_of_bind_eq_ok hrule
    split at hentries
    · exact Or.inl (Except.ok.inj hentries).symm
    · exact Or.inr (Or.inl ⟨_, (Except.ok.inj hentries).symm⟩)
  · rw [ho] at hrule
    exact Or.inr (Or.inr ⟨beta₁, beta₂, epsilon, grad, rfl, (Except.ok.inj hrule).symm⟩)

theorem Regular.paired_after (h : o.Regular) (u : Update) : (u.after o).Paired u.id := by
  obtain ⟨n, -, hn⟩ := h.next u.id
  rcases hwrites : o.writes u with fault | entries
  · rw [Paired, state_after_of_error h.sane.taken u hn hwrites]
    exact h.paired u.id
  · have hkept : "m" ∉ entries.map Prod.fst → "v" ∉ entries.map Prod.fst →
        (u.after o).Paired u.id := by
      intro hm hv
      rw [Paired, lookup_after_of_notMem h.sane.taken u hn hwrites hm,
        lookup_after_of_notMem h.sane.taken u hn hwrites hv]
      exact h.paired u.id
    rcases writes_cases hwrites with rfl | ⟨velocity, rfl⟩ | ⟨beta₁, beta₂, epsilon, grad, -, rfl⟩
    · exact hkept (by simp) (by simp)
    · exact hkept (by simp) (by simp)
    · rw [Paired, h.shape_after u hwrites (Or.inl rfl), h.shape_after u hwrites (Or.inr rfl),
        (h.paired u.id).shape_arrayOf]

theorem Regular.after (h : o.Regular) (u : Update) : (u.after o).Regular := by
  have hagree : ∀ other, u.id ≠ other → Agree other o (u.after o) :=
    fun other hother => along_update hother u.weight u.grad o
  refine ⟨sane_update u.id u.weight u.grad o h.sane, fun other => ?_, fun other => ?_⟩
  · by_cases hother : u.id = other
    · obtain ⟨n, -, hn⟩ := h.next u.id
      rw [← hother]
      exact ⟨n + 1, count_after h.sane.taken u hn⟩
    · rw [← (hagree other hother).count]
      exact h.counted other
  · by_cases hother : u.id = other
    · rw [← hother]
      exact h.paired_after u
    · rw [Paired, ← (hagree other hother).state "m" (by simp [parts]),
        ← (hagree other hother).state "v" (by simp [parts])]
      exact h.paired other

end Regular

theorem Reached.regular {o : Optimizer} (h : Reached o) : o.Regular := by
  induction h with
  | made hmade =>
    obtain ⟨hcounts, hstate⟩ := unused_ofName hmade
    exact .of_unused (sane_ofName hmade) hcounts hstate
  | updated _ u ih => exact ih.after u
  | forgotten _ id ih => exact ih.forget id
  | cleared _ ih => exact .of_unused ih.sane.reset rfl rfl
  | restored _ _ ih ihs => exact ih.restore ihs

/-! ## Both averages or none -/

/-- Two calculations both fail, or both give tensors of one shape. -/
def Alike : Except Fault Tensor → Except Fault Tensor → Prop
  | .ok t, .ok u => t.shape = u.shape
  | .error _, .error _ => True
  | _, _ => False

section Alike

variable {a b c d : Tensor}

theorem Alike.bind {x y : Except Fault Tensor} {f g : Tensor → Except Fault Tensor}
    (h : Alike x y) (hnext : ∀ t u, t.shape = u.shape → Alike (f t) (g u)) :
    Alike (x >>= f) (y >>= g) := by
  rcases x with _ | t <;> rcases y with _ | u
  · trivial
  · exact h.elim
  · exact h.elim
  · exact hnext t u h

theorem Alike.isOk {x y : Except Fault Tensor} (h : Alike x y) : x.isOk = y.isOk := by
  rcases x with _ | t <;> rcases y with _ | u
  · rfl
  · exact h.elim
  · exact h.elim
  · rfl

theorem combineScalar_float (t : Tensor) (x : Float) :
    ∃ u, t.combineScalar .multiply (.float x) = .ok u := by
  rw [Tensor.combineScalar]
  have htype : ∀ e, Tensor.resultType .multiply e = .ok e := by
    intro e
    cases e <;> rfl
  rw [htype]
  exact ⟨_, rfl⟩

theorem alike_scaled (x y : Float) (h : a.shape = b.shape) :
    Alike (a.combineScalar .multiply (.float x)) (b.combineScalar .multiply (.float y)) := by
  obtain ⟨t, ht⟩ := combineScalar_float a x
  obtain ⟨u, hu⟩ := combineScalar_float b y
  rw [ht, hu]
  exact ((Tensor.shape_combineScalar ht).trans h).trans (Tensor.shape_combineScalar hu).symm

theorem alike_sum (h : a.shape = b.shape) (h' : c.shape = d.shape) :
    Alike (a.combine .add c) (b.combine .add d) := by
  have htype : ∀ e, Tensor.resultType .add e = .ok e := by
    intro e
    cases e <;> rfl
  rw [Tensor.combine, Tensor.combine, htype, htype]
  dsimp only [bind, Except.bind]
  rw [h, h']
  split
  · rfl
  · trivial

theorem alike_assign (h : a.shape = b.shape) (h' : c.shape = d.shape) :
    Alike (a.assign c) (b.assign d) := by
  rw [Tensor.assign, Tensor.assign, h, h']
  split
  · trivial
  · split
    · trivial
    · rfl

theorem alike_averagedOn (x y : Float) (h : a.shape = b.shape) (h' : c.shape = d.shape) :
    Alike (averagedOn (.float x) a c) (averagedOn (.float y) b d) := by
  refine Alike.bind ?_ fun t u htu => alike_assign h htu
  refine (alike_scaled x y h).bind fun t u htu => ?_
  exact (alike_scaled (1 - x) (1 - y) h').bind fun t' u' htu' => alike_sum htu htu'

end Alike

/-! ## What a failed update leaves -/

/-- The factors of the averages are floats, as they are declared. -/
def FloatFactors (o : Optimizer) : Prop :=
  match o.rule with
  | .sgd .. => True
  | .adam beta₁ beta₂ _ => (∃ x, beta₁ = .float x) ∧ ∃ y, beta₂ = .float y

/-- An array of the parameter is as it was, or it was missing and is now made of zeros. -/
def Untouched (o : Optimizer) (u : Update) (part : String) : Prop :=
  (u.after o).state.lookup (key u.id part) = o.state.lookup (key u.id part) ∨
    o.state.lookup (key u.id part) = none ∧
      (u.after o).state.lookup (key u.id part) = some (.zeros u.weight.dtype u.weight.shape)

section Lost

variable {o : Optimizer} {u : Update} {part : String}

theorem untouched_of_arrayOf
    (h : (u.after o).state.lookup (key u.id part) = some (o.arrayOf u.id part u.weight)) :
    Untouched o u part := by
  rw [arrayOf] at h
  rcases hlookup : o.state.lookup (key u.id part) with _ | t
  · rw [hlookup] at h
    exact Or.inr ⟨hlookup, h⟩
  · rw [hlookup] at h
    exact Or.inl (h.trans hlookup.symm)

/-- If the first array cannot be calculated, none is written. -/
theorem Regular.untouched_of_first (h : o.Regular) {name : String} {fault : Fault} {rest : Writes}
    (hwrites : o.writes u = .ok ((name, .error fault) :: rest)) : Untouched o u part := by
  obtain ⟨n, -, hn⟩ := h.next u.id
  by_cases hpart : part ∈ ((name, .error fault) :: rest : Writes).map Prod.fst
  · apply untouched_of_arrayOf
    rw [after_eq_writeAll h.sane.taken u hn hwrites, writeAll, lookup_foldl_made, if_pos hpart]
    · rfl
    · intro _ _ _ hread
      cases hread
  · exact Or.inl (lookup_after_of_notMem h.sane.taken u hn hwrites hpart)

/-- An update whose gradient does not enter leaves the arrays untouched.  If the factors are no
floats, the first average may be written although the second one cannot be calculated. -/
theorem Regular.untouched_of_lost (h : o.Regular) (hlost : ¬ o.Enters u)
    (hpart : o.FloatFactors ∨ part ≠ "m") : Untouched o u part := by
  obtain ⟨n, -, hn⟩ := h.next u.id
  rcases hwrites : o.writes u with fault | entries
  · left
    rw [state_after_of_error h.sane.taken u hn hwrites]
  · rw [Enters, hwrites] at hlost
    rcases writes_cases hwrites with
      rfl | ⟨velocity, rfl⟩ | ⟨beta₁, beta₂, epsilon, grad, hrule, rfl⟩
    · exact absurd rfl hlost
    · rcases velocity with fault | t
      · exact h.untouched_of_first hwrites
      · exact absurd rfl hlost
    · rw [adamWrites] at hwrites hlost
      rcases hm : averagedOn beta₁ (o.arrayOf u.id "m" u.weight) grad with fault | m
      · rw [hm] at hwrites
        exact h.untouched_of_first hwrites
      · rcases hv : averagedOn beta₂ (o.arrayOf u.id "v" u.weight) grad.square with fault | v
        · -- Only the first average is written.
          have hne : part ≠ "m" := by
            apply hpart.resolve_left
            intro hfloats
            rw [FloatFactors, hrule] at hfloats
            obtain ⟨⟨x, rfl⟩, y, rfl⟩ := hfloats
            have halike := alike_averagedOn x y ((h.paired u.id).shape_arrayOf u.weight)
              (c := grad) (d := grad.square) rfl
            rw [hm, hv] at halike
            exact halike
          rw [hm, hv] at hwrites
          by_cases hmem : part ∈ ([("m", .ok m), ("v", .error fault)] : Writes).map Prod.fst
          · rcases lookup_after_of_mem h.sane.taken u hn hwrites hmem with hmade | ⟨t, ht, -⟩
            · exact untouched_of_arrayOf hmade
            · simp [hne] at ht
          · exact Or.inl (lookup_after_of_notMem h.sane.taken u hn hwrites hmem)
        · rw [hm, hv] at hlost
          exact absurd rfl hlost

/-- An update whose gradient enters writes over every array that it is to write. -/
theorem Regular.written_of_enters (h : o.Regular) (henters : o.Enters u) :
    ∃ entries, o.writes u = .ok entries ∧ ∀ entry ∈ entries, ∃ t,
      entry.2 = .ok t ∧ (u.after o).state.lookup (key u.id entry.1) = some t := by
  obtain ⟨n, -, hn⟩ := h.next u.id
  rcases hwrites : o.writes u with fault | entries
  · rw [Enters, hwrites] at henters
    cases henters
  · rw [Enters, hwrites] at henters
    have hnames : (entries.map Prod.fst).Nodup := by
      rcases writes_cases hwrites with rfl | ⟨velocity, rfl⟩ | ⟨beta₁, beta₂, epsilon, grad, -, rfl⟩
      · simp
      · simp
      · simp [adamWrites]
    refine ⟨entries, rfl, fun entry hentry => ?_⟩
    rcases entry with ⟨part, value⟩
    have hvalue : value.isOk = true := List.all_eq_true.mp henters (part, value) hentry
    rcases value with fault | t
    · cases hvalue
    · refine ⟨t, rfl, ?_⟩
      rw [after_eq_writeAll h.sane.taken u hn hwrites]
      exact lookup_writeAll_of_whole hnames henters hentry

end Lost

/-! ## Counts of runs -/

/-- How many of the updates of a parameter are of this kind, each one in its turn. -/
def tally (kind : Optimizer → Update → Bool) (id : String) : Optimizer → List Update → Nat
  | _, [] => 0
  | o, u :: rest => (if u.id = id ∧ kind o u = true then 1 else 0) + tally kind id (u.after o) rest

/-- How many updates of a parameter enter its arrays. -/
def entered (id : String) (o : Optimizer) (updates : List Update) : Nat :=
  tally (fun o u => o.Enters u) id o updates

/-- How many updates of a parameter do not. -/
def lost (id : String) (o : Optimizer) (updates : List Update) : Nat :=
  tally (fun o u => !decide (o.Enters u)) id o updates

/-- The count of a parameter goes up by one with each update of it. -/
theorem Regular.count_after_eq {o : Optimizer} (h : o.Regular) (u : Update) {id : String} {n : Nat}
    (hn : o.count id = .int n) :
    (u.after o).count id = .int (n + if u.id = id then 1 else 0 : Nat) := by
  by_cases hid : u.id = id
  · subst hid
    have hnext : Optimizer.counted (o.count u.id) = .ok (.int (n + 1 : Nat)) := by
      rw [hn]
      rfl
    rw [if_pos rfl]
    exact count_after h.sane.taken u hnext
  · have hagree : Agree id o (u.after o) := along_update hid u.weight u.grad o
    rw [← hagree.count, if_neg hid]
    exact hn

theorem Regular.count_afterUpdates {o : Optimizer} (h : o.Regular) {id : String} {n : Nat}
    (hn : o.count id = .int n) (updates : List Update) :
    (o.afterUpdates updates).count id =
      .int (n + entered id o updates + lost id o updates : Nat) := by
  induction updates generalizing o n with
  | nil => exact hn
  | cons u rest ih =>
    have hrest := ih (h.after u) (h.count_after_eq u hn)
    have hsum : (if u.id = id then 1 else 0) =
        (if u.id = id ∧ decide (o.Enters u) = true then 1 else 0) +
          if u.id = id ∧ (!decide (o.Enters u)) = true then 1 else 0 := by
      by_cases hid : u.id = id <;> by_cases henters : o.Enters u <;> simp [hid, henters]
    rw [show o.afterUpdates (u :: rest) = (u.after o).afterUpdates rest from rfl, hrest, hsum,
      entered, entered, lost, lost, tally, tally]
    congr 2
    omega

/-- Whatever optimizer is reached: an update that succeeds has entered the arrays of its parameter.
One that fails changes nothing of other parameters and is counted; if its gradient has not entered,
the arrays of its parameter are untouched, and otherwise all of them are written.  The count of a
parameter grows by the number of its updates that enter and of those that are lost, so it is the
number of those that entered just if none was lost. -/
theorem failed_update_counted {o : Optimizer} (ho : Reached o) :
    (∀ (u : Update) w, (u.step.runFrom o).1 = .ok w → o.Enters u) ∧
      (∀ (u : Update) fault, (u.step.runFrom o).1 = .error fault →
        (∀ other ≠ u.id, Agree other o (u.after o)) ∧
        (∃ n : Nat, o.count u.id = .int n ∧ (u.after o).count u.id = .int (n + 1 : Nat)) ∧
        (¬ o.Enters u → ∀ part ∈ parts, o.FloatFactors ∨ part ≠ "m" → Untouched o u part) ∧
        (o.Enters u → ∃ entries, o.writes u = .ok entries ∧ ∀ entry ∈ entries, ∃ t,
          entry.2 = .ok t ∧ (u.after o).state.lookup (key u.id entry.1) = some t)) ∧
      ∀ id updates, ∃ n : Nat, o.count id = .int n ∧ (o.afterUpdates updates).count id =
        .int (n + entered id o updates + lost id o updates : Nat) := by
  have h : o.Regular := ho.regular
  refine ⟨fun u w hok => ?_, fun u fault _ => ⟨?_, ?_, ?_, ?_⟩, fun id updates => ?_⟩
  · obtain ⟨n, -, hn⟩ := h.next u.id
    exact enters_of_ok h.sane.taken u hn hok
  · exact fun other hother => along_update hother.symm u.weight u.grad o
  · obtain ⟨n, hcount, hn⟩ := h.next u.id
    exact ⟨n, hcount, count_after h.sane.taken u hn⟩
  · exact fun hlost part _ hpart => h.untouched_of_lost hlost hpart
  · exact h.written_of_enters
  · obtain ⟨n, hcount⟩ := h.counted id
    exact ⟨n, hcount, h.count_afterUpdates hcount updates⟩

/-! ## A trial -/

/-- An update with a gradient that does not fit its weight. -/
def misfit (id : String) : Update := ⟨id, .zeros .int64 [1], .ones .int64 [2]⟩

theorem failed_update_counted_misfit :
    let o := rolledBy ["v", "w"]
    (∀ other ≠ "w", Agree other o ((misfit "w").after o)) ∧
      (∃ n : Nat, o.count "w" = .int n ∧ ((misfit "w").after o).count "w" = .int (n + 1 : Nat)) ∧
      Untouched o (misfit "w") "velocity" ∧
      ∃ n : Nat, o.count "w" = .int n ∧
        (o.afterUpdates [misfit "w", pushOf "v", pushOf "w"]).count "w" =
          .int (n + 1 + 1 : Nat) := by
  intro o
  have ho : Reached o :=
    .updated (.updated (.made ofName_rolling) (pushOf "v")) (pushOf "w")
  obtain ⟨-, hfailed, hruns⟩ := failed_update_counted ho
  have hfault : ((misfit "w").step.runFrom o).1 = .error .badValue := by rfl
  obtain ⟨hothers, hcounted, hlost, -⟩ := hfailed (misfit "w") .badValue hfault
  refine ⟨hothers, hcounted, ?_, ?_⟩
  · exact hlost (by decide +kernel) "velocity" (by decide) (Or.inr (by decide))
  · have hentered : entered "w" o [misfit "w", pushOf "v", pushOf "w"] = 1 := by decide +kernel
    have hlost : lost "w" o [misfit "w", pushOf "v", pushOf "w"] = 1 := by decide +kernel
    have hrun := hruns "w" [misfit "w", pushOf "v", pushOf "w"]
    rwa [hentered, hlost] at hrun

/-- Adam with whole numbers for factors. -/
def wholeAdam : Optimizer := { adam with rule := .adam (.int 0) (.int 0) (.int 0) }

/-- The first update of a parameter fails when its gradient does not fit.  Still the parameter is
counted once and has averages, although nothing has entered them. -/
theorem counted_although_failed :
    ofName "adam" [("beta1", .int 0), ("beta2", .int 0), ("epsilon", .int 0)] = .ok wholeAdam ∧
      ((misfit "w").step.runFrom wholeAdam).1 = .error .badValue ∧
      wholeAdam.count "w" = .int 0 ∧ ((misfit "w").after wholeAdam).count "w" = .int 1 ∧
      wholeAdam.state.lookup (key "w" "m") = none ∧
      ((misfit "w").after wholeAdam).state.lookup (key "w" "m") = some (.zeros .int64 [1]) ∧
      entered "w" wholeAdam [misfit "w"] = 0 := by
  refine ⟨by rfl, by rfl, by rfl, by rfl, by rfl, by decide +kernel, by decide +kernel⟩

end Optimizer

end DataParallel

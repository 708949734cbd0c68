import DataParallel.Pool.Literal
import DataParallel.Pool.Manager
import DataParallel.Proofs.Pool.Writing

/-!
# Every operation lets the pool evolve

The operations on arrays and managers are made of a few elementary changes, so
each of them lets the pool evolve from any state and however it ends.  In
particular a sound pool stays sound.
-/

namespace DataParallel

namespace Pool

open Step

/-! ## Arrays -/

theorem along_held (a : ArrayId) : Along Evolves (held a) := by
  intro p
  rcases hh : (p.array a).holding with _ | h
  · rw [runFrom_held_closed hh]
    exact Evolves.refl p
  · rw [runFrom_held hh]
    exact Evolves.refl p

theorem along_items (a : ArrayId) : Along Evolves (items a) :=
  along_bind (along_held a) fun _ => along_bind along_get fun _ => along_pure _

/-- Why no numbers are read from an array. -/
def unread (p : Pool) (a : ArrayId) : Fault :=
  if (p.items? a).isSome then .notNumbers else .arrayClosed

theorem runFrom_read (p : Pool) (a : ArrayId) :
    (read a).runFrom p = ((p.contents? a).elim (.error (p.unread a)) .ok, p) := by
  rcases hc : p.items? a with _ | t | c
  · rw [read, runFrom_bind_of_error (runFrom_items_closed hc), contents?, unread, hc]
    rfl
  · rw [read, runFrom_bind_of_ok (runFrom_items hc), contents?_eq_some.mpr hc]
    rfl
  · rw [read, runFrom_bind_of_ok (runFrom_items hc), contents?, unread, hc]
    rfl

theorem along_read (a : ArrayId) : Along Evolves (read a) := by
  intro p
  rw [runFrom_read]
  exact Evolves.refl p

theorem along_place (device : Device) (c : Contents) (order : MemoryOrder) :
    Along Evolves (place device c order) :=
  fun _ => (extends_addOwning rfl).evolves

theorem along_attachGradient (a : ArrayId) : Along Evolves (attachGradient a) := by
  intro p
  rcases hh : (p.array a).holding with _ | h
  · rw [attachGradient, runFrom_bind_of_error (runFrom_held_closed hh)]
    exact Evolves.refl p
  · rw [runFrom_attachGradient hh]
    exact evolves_tracked hh

theorem along_toDevice (a : ArrayId) (device : Device) (track : Bool) :
    Along Evolves (toDevice a device track) := by
  refine along_bind (along_items a) fun c => ?_
  refine along_bind (along_place device c .rowMajor) fun copy => ?_
  cases track
  · exact along_pure copy
  · exact along_bind (along_attachGradient copy) fun _ => along_pure copy

/-- An open array gives its gradient, if it has one. -/
theorem runFrom_gradient (p : Pool) (a : ArrayId) :
    (gradient a).runFrom p =
      ((p.array a).holding.elim (.error .arrayClosed) fun h =>
        h.gradient.elim (.error .noGradient) .ok, p) := by
  rcases hh : (p.array a).holding with _ | h
  · rw [gradient, runFrom_bind_of_error (runFrom_held_closed hh)]
    rfl
  · rw [gradient, runFrom_bind_of_ok (runFrom_held hh), Option.elim_some]
    rcases h.gradient with _ | g
    · rfl
    · rfl

theorem along_gradient (a : ArrayId) : Along Evolves (gradient a) := by
  intro p
  rw [runFrom_gradient]
  exact Evolves.refl p

theorem runFrom_gradient_of_some {p : Pool} {a g : ArrayId} (hg : p.gradient? a = some g) :
    (gradient a).runFrom p = (.ok g, p) := by
  obtain ⟨h, hh, hgradient⟩ := gradient?_eq_some.mp hg
  rw [runFrom_gradient, hh, Option.elim_some, hgradient]
  rfl

/-- Otherwise the array is closed or has no gradient. -/
theorem runFrom_gradient_of_none {p : Pool} {a : ArrayId} (hg : p.gradient? a = none) :
    ∃ fault, (fault = .arrayClosed ∨ fault = .noGradient) ∧
      (gradient a).runFrom p = (.error fault, p) := by
  rw [runFrom_gradient]
  rcases hh : (p.array a).holding with _ | h
  · exact ⟨.arrayClosed, Or.inl rfl, rfl⟩
  · have hnone : h.gradient = none := by
      rw [gradient?, hh] at hg
      exact hg
    refine ⟨.noGradient, Or.inr rfl, ?_⟩
    rw [Option.elim_some, hnone]
    rfl

theorem gradient_ok {p q : Pool} {a g : ArrayId}
    (hrun : (gradient a).runFrom p = (.ok g, q)) : q = p ∧ p.gradient? a = some g := by
  rcases hg : p.gradient? a with _ | g'
  · obtain ⟨fault, -, herror⟩ := runFrom_gradient_of_none hg
    rw [herror] at hrun
    cases hrun
  · rw [runFrom_gradient_of_some hg] at hrun
    cases hrun
    exact ⟨rfl, rfl⟩

/-- A view shares the buffer of the array that it was made of, and has as many
elements. -/
theorem along_reshape (a : ArrayId) (dims : List Int) : Along Evolves (reshape a dims) := by
  intro p
  rcases hh : (p.array a).holding with _ | h
  · rw [reshape, runFrom_bind_of_error (runFrom_held_closed hh)]
    exact Evolves.refl p
  · rw [reshape, runFrom_bind_of_ok (runFrom_held hh)]
    rw [runFrom_bind_of_ok (runFrom_items (items?_of_holding hh))]
    rcases hc : ((p.buffer h.buffer).contents.withShape h.shape).reshape dims with fault | c
    · exact Evolves.refl p
    · have hsize : c.size = (p.buffer h.buffer).contents.size :=
        (Contents.size_of_reshape hc).trans (Contents.size_withShape _ _)
      rw [runFrom_bind_of_ok (runFrom_ofExcept _ p), runFrom_modifyGet]
      dsimp only
      split
      · refine (extends_addArray ?_).evolves
        intro hp k hk
        rw [← Option.some.inj hk]
        exact ⟨rfl, hp.buffer_lt (h := h) hh, hsize.symm⟩
      · exact (extends_addOwning rfl).evolves

theorem along_gather (a indices : ArrayId) : Along Evolves (gather a indices) := by
  refine along_bind (along_items a) fun c => along_bind (along_read indices) fun t => ?_
  refine along_bind (along_ofExcept _) fun rows => along_bind along_get fun p => ?_
  exact along_place _ rows .rowMajor

theorem along_setFrom (a source : ArrayId) : Along Evolves (setFrom a source) :=
  along_bind (along_held a) fun _ => along_bind (along_read source) fun t => along_set a t

/-! ## Bonds -/

theorem evolves_release (p : Pool) (m : ManagerId) (a : ArrayId) : p.Evolves (p.release m a) :=
  (extends_updateManager p m _).evolves

theorem evolves_detached (p : Pool) (a : ArrayId) : p.Evolves (p.detached a) := by
  rw [detached]
  split
  · exact (evolves_release p _ a).trans
      (evolves_updateArray _ a (fun _ => rfl) fun _ => Or.inl rfl)
  · exact Evolves.refl p

theorem along_detach (a : ArrayId) : Along Evolves (detach a) :=
  along_modify fun p => p.evolves_detached a

theorem along_enlist (m : ManagerId) (a : ArrayId) : Along Evolves (enlist m a) := by
  have hput : Along Evolves (modify fun p : Pool => p.updateManager m fun s =>
      { s with resources := if a ∈ s.resources then s.resources else s.resources ++ [a] } :
        Step Pool PUnit) :=
    along_modify fun p => (extends_updateManager p m _).evolves
  refine along_bind along_get fun p => ?_
  split
  · exact along_bind (along_throw _) fun _ => hput
  · exact hput

theorem along_attach (a : ArrayId) (m : ManagerId) : Along Evolves (attach a m) := by
  have hbind : Along Evolves (do
      enlist m a
      modify fun p : Pool => p.updateArray a fun s => { s with manager := some m } :
        Step Pool PUnit) :=
    along_bind (along_enlist m a) fun _ =>
      along_modify fun p => evolves_updateArray p a (fun _ => rfl) fun _ => Or.inl rfl
  refine along_bind (along_held a) fun _ => along_bind along_get fun p => ?_
  split
  · next old _ =>
    split
    · exact along_pure _
    · exact along_bind (along_modify fun p => evolves_release p old a) fun _ => hbind
  · exact hbind

theorem evolves_closed (p : Pool) (a : ArrayId) : p.Evolves (p.closed a) := by
  rw [closed]
  split
  · exact Evolves.refl p
  · exact (evolves_detached p a).trans
      (evolves_updateArray _ a (fun _ => rfl) fun _ => Or.inr rfl)

theorem along_close (a : ArrayId) : Along Evolves (close a) :=
  along_modify fun p => p.evolves_closed a

/-! ## Managers -/

theorem along_newManager (device : Device) : Along Evolves (newManager device) := by
  intro p
  have hp : ∀ q : Pool, q.arrays = p.arrays → q.buffers = p.buffers → p.Evolves q := by
    rintro ⟨_, _, _⟩ rfl rfl
    exact ⟨Nat.le_refl _, Nat.le_refl _, fun _ => rfl, fun _ hk => ⟨_, hk, rfl, rfl⟩,
      fun _ _ hg => hg, fun _ => rfl, fun h => h.of_fewer_holdings (Nat.le_refl _)
        (Nat.le_refl _) id fun _ => ⟨rfl, rfl⟩⟩
  exact hp _ rfl rfl

theorem along_checkOpen (m : ManagerId) : Along Evolves (checkOpen m) := by
  refine along_bind along_get fun p => ?_
  split
  · exact along_throw _
  · exact along_pure _

theorem along_create (m : ManagerId) (contents : Except Fault Contents) (device : Device) :
    Along Evolves (create m contents device) := by
  refine along_bind (along_checkOpen m) fun _ => along_bind (along_ofExcept contents) fun t => ?_
  refine along_bind along_get fun p => ?_
  refine along_bind (along_place _ t .rowMajor) fun a => ?_
  exact along_bind (along_attach a m) fun _ => along_pure a

theorem evolves_foldl {α : Type} {f : Pool → α → Pool} (hf : ∀ p x, Evolves p (f p x))
    (xs : List α) (p : Pool) : p.Evolves (xs.foldl f p) := by
  induction xs generalizing p with
  | nil => exact Evolves.refl p
  | cons x xs ih => exact (hf p x).trans (ih (f p x))

theorem evolves_closedBelow (depth : Nat) (p : Pool) (m : ManagerId) :
    p.Evolves (closedBelow depth p m) := by
  induction depth generalizing p m with
  | zero => exact Evolves.refl p
  | succ depth ih =>
    rw [closedBelow]
    split
    · exact Evolves.refl p
    · have hbelow := evolves_foldl (f := closedBelow depth) ih (p.manager m).children p
      have hemptied := (extends_updateManager
        ((p.manager m).children.foldl (closedBelow depth) p) m
        fun s => { s with resources := [], isOpen := false }).evolves
      have hclosed := evolves_foldl (f := closed) evolves_closed
        (((p.manager m).children.foldl (closedBelow depth) p).manager m).resources
        (((p.manager m).children.foldl (closedBelow depth) p).updateManager m
          fun s => { s with resources := [], isOpen := false })
      dsimp only
      split
      · exact ((hbelow.trans hemptied).trans hclosed).trans
          (extends_updateManager _ _ _).evolves
      · exact (hbelow.trans hemptied).trans hclosed

theorem along_closeManager (m : ManagerId) : Along Evolves (closeManager m) :=
  along_modify fun p => evolves_closedBelow _ p m

/-! ## Writing nested lists -/

/-- Writing a nested list changes nothing, or it is writing a tensor, or it puts other numbers of
the same type and shape into the buffer of the array. -/
theorem setLiteral_cases (p : Pool) (a : ArrayId) (l : Literal) :
    ((setLiteral a l).runFrom p).2 = p ∨
      (∃ t, (setLiteral a l).runFrom p = (set a t).runFrom p) ∨
      ∃ h old new, (p.array a).holding = some h ∧ (p.buffer h.buffer).contents = .tensor old ∧
        new.dtype = old.dtype ∧ new.shape = old.shape ∧
          ((setLiteral a l).runFrom p).2 =
            p.updateBuffer h.buffer fun b => { b with contents := .tensor new } := by
  rcases hh : (p.array a).holding with _ | h
  · rw [setLiteral, runFrom_bind_of_error (runFrom_held_closed hh)]
    exact Or.inl rfl
  · rw [setLiteral, runFrom_bind_of_ok (runFrom_held hh)]
    rcases hl : l.commonType? with fault | _ | d
    · exact Or.inl rfl
    · simp only [runFrom_bind, runFrom_ofExcept]
      split
      · exact Or.inl rfl
      · rcases hold : (p.buffer h.buffer).contents with old | c
        · refine Or.inr (Or.inr ⟨h, old, (overwritten old
            ((p.buffer h.buffer).order.positions old.shape) l.members).1, rfl, hold, rfl, rfl, ?_⟩)
          rw [runFrom_bind_of_ok (runFrom_get p), hold]
          rfl
        · rw [runFrom_bind_of_ok (runFrom_get p), hold]
          exact Or.inl rfl
    · rw [runFrom_bind_of_ok (runFrom_ofExcept _ p)]
      dsimp only
      rcases l.toTensor (.native d) with fault | t
      · exact Or.inl rfl
      · exact Or.inr (Or.inl ⟨t, runFrom_bind_of_ok (runFrom_ofExcept _ p)⟩)

theorem along_setLiteral (a : ArrayId) (l : Literal) : Along Evolves (setLiteral a l) := by
  intro p
  rcases setLiteral_cases p a l with hsame | ⟨t, hset⟩ | ⟨h, old, new, -, hold, htype, hshape, hnew⟩
  · rw [hsame]
    exact Evolves.refl p
  · rw [hset]
    exact along_set a t p
  · rw [hnew]
    apply evolves_updateBuffer
    · rw [hold]
      exact congrArg ItemType.number htype
    · intro _
      rw [hold]
      exact congrArg Shape.size hshape

theorem along_fillWith (a : ArrayId) (v : Value) : Along Evolves (fillWith a v) := by
  refine along_bind (along_held a) fun h => along_bind (along_ofExcept _) fun l => ?_
  exact along_setLiteral a l

end Pool

end DataParallel

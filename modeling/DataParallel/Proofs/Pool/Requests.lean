import DataParallel.Pool.Literal
import DataParallel.Pool.Manager
import DataParallel.Proofs.Pool.Creation
import DataParallel.Proofs.Pool.Operations
import DataParallel.Proofs.Step.Along

/-!
# Requests to a pool

A program asks for one thing after another: managers and arrays are made, bound, released, written
and closed.  A request that fails is answered with a fault, what was changed before the fault stays
changed, and the program goes on.

Most requests have nothing to do with the bonds between arrays and managers.  The others come down
to a few changes of the pool, which are named here, so that no later proof opens the steps.
-/

namespace DataParallel

namespace Pool

open Step

/-- What can be asked of a pool. -/
inductive Request where
  | newManager (device : Device)
  | newSubManager (m : ManagerId) (device : Device)
  /-- An array of a manager, from something that may be no contents of an array. -/
  | create (m : ManagerId) (contents : Except Fault Contents) (device : Device)
  /-- An array of a manager that is filled with one number. -/
  | createFilled (m : ManagerId) (contents : Except Fault Tensor)
  | attach (a : ArrayId) (m : ManagerId)
  | detach (a : ArrayId)
  | close (a : ArrayId)
  | closeManager (m : ManagerId)
  /-- An array without a manager. -/
  | place (device : Device) (c : Contents) (order : MemoryOrder)
  | toDevice (a : ArrayId) (device : Device) (track : Bool)
  | attachGradient (a : ArrayId)
  | reshape (a : ArrayId) (dims : List Int)
  | gather (a indices : ArrayId)
  | set (a : ArrayId) (values : Tensor)
  | setFrom (a source : ArrayId)
  | overwrite (conversion : Conversion) (a : ArrayId) (values : Contents)
  | setLiteral (a : ArrayId) (l : Literal)
  | fillWith (a : ArrayId) (v : Value)

/-- The pool after a request, however it ended. -/
def Request.after (p : Pool) : Request → Pool
  | newManager device => ((Pool.newManager device).runFrom p).2
  | newSubManager m device => ((Pool.newSubManager m device).runFrom p).2
  | create m contents device => ((Pool.create m contents device).runFrom p).2
  | createFilled m contents => ((Pool.createFilled m contents).runFrom p).2
  | attach a m => ((Pool.attach a m).runFrom p).2
  | detach a => ((Pool.detach a).runFrom p).2
  | close a => ((Pool.close a).runFrom p).2
  | closeManager m => ((Pool.closeManager m).runFrom p).2
  | place device c order => ((Pool.place device c order).runFrom p).2
  | toDevice a device track => ((Pool.toDevice a device track).runFrom p).2
  | attachGradient a => ((Pool.attachGradient a).runFrom p).2
  | reshape a dims => ((Pool.reshape a dims).runFrom p).2
  | gather a indices => ((Pool.gather a indices).runFrom p).2
  | set a values => ((Pool.set a values).runFrom p).2
  | setFrom a source => ((Pool.setFrom a source).runFrom p).2
  | overwrite conversion a values => ((Pool.overwrite conversion a values).runFrom p).2
  | setLiteral a l => ((Pool.setLiteral a l).runFrom p).2
  | fillWith a v => ((Pool.fillWith a v).runFrom p).2

/-- The pool after some requests. -/
def afterAll (p : Pool) (requests : List Request) : Pool := requests.foldl Request.after p

/-! ## Requests that leave bonds alone -/

/-- The managers are the same, every array has the manager that it had, and arrays are open if they
were; new arrays have no manager. -/
structure SameBonds (p q : Pool) : Prop where
  managers : q.managers = p.managers
  arrays_le : p.arrays.size ≤ q.arrays.size
  manager : ∀ a, (q.array a).manager = (p.array a).manager
  isClosed : ∀ a, p.Has a → q.isClosed a = p.isClosed a

theorem SameBonds.refl (p : Pool) : p.SameBonds p :=
  ⟨rfl, Nat.le_refl _, fun _ => rfl, fun _ _ => rfl⟩

theorem SameBonds.trans {p q r : Pool} (hpq : p.SameBonds q) (hqr : q.SameBonds r) :
    p.SameBonds r where
  managers := hqr.managers.trans hpq.managers
  arrays_le := Nat.le_trans hpq.arrays_le hqr.arrays_le
  manager a := (hqr.manager a).trans (hpq.manager a)
  isClosed a ha :=
    (hqr.isClosed a (Nat.lt_of_lt_of_le ha hpq.arrays_le)).trans (hpq.isClosed a ha)

instance : IsPreorder Pool SameBonds where
  refl := SameBonds.refl
  trans _ _ _ := SameBonds.trans

section SameBonds

variable (p : Pool)

theorem array_of_not_has {a : ArrayId} (ha : ¬p.Has a) : p.array a = default := by
  simp [array, Array.getD_eq_getD_getElem?, show ¬a.index < p.arrays.size from ha]

theorem sameBonds_addArray {s : ArrayState} (hs : s.manager = none) :
    p.SameBonds (p.addArray s).2 := by
  refine ⟨rfl, by simp [arrays_size_addArray], fun a => ?_, fun a ha => ?_⟩
  · rw [array_addArray]
    split
    · next ha =>
      have hnew : p.array p.nextArray = default := array_of_not_has p (Nat.lt_irrefl _)
      rw [hs, ha, hnew]
      rfl
    · rfl
  · rw [isClosed, isClosed, array_addArray_of_has ha]

theorem sameBonds_addOwning (device : Device) (b : Buffer) (shape : Shape) :
    p.SameBonds (p.addOwning device b shape).2 := by
  have hbuffer : p.SameBonds (p.addBuffer b).2 :=
    ⟨rfl, Nat.le_refl _, fun _ => rfl, fun _ _ => rfl⟩
  rw [addOwning_snd]
  exact hbuffer.trans (sameBonds_addArray _ rfl)

/-- An open array may come to hold something else. -/
theorem sameBonds_updateArray {a : ArrayId} {f : ArrayState → ArrayState}
    (hmanager : (f (p.array a)).manager = (p.array a).manager)
    (hopen : (f (p.array a)).holding.isNone = (p.array a).holding.isNone) :
    p.SameBonds (p.updateArray a f) := by
  refine ⟨rfl, by simp, fun b => ?_, fun b _ => ?_⟩
  · rw [array_updateArray]
    split
    · next hb =>
      rw [← hb.1]
      exact hmanager
    · rfl
  · rw [isClosed, isClosed, array_updateArray]
    split
    · next hb =>
      rw [← hb.1]
      exact hopen
    · rfl

theorem sameBonds_updateBuffer (b : BufferId) (f : Buffer → Buffer) :
    p.SameBonds (p.updateBuffer b f) :=
  ⟨rfl, Nat.le_refl _, fun _ => rfl, fun _ _ => rfl⟩

end SameBonds

theorem bonds_held (a : ArrayId) : Along SameBonds (held a) := by
  refine along_bind along_get fun p => ?_
  split
  · exact along_pure _
  · exact along_throw _

theorem bonds_items (a : ArrayId) : Along SameBonds (items a) :=
  along_bind (bonds_held a) fun _ => along_bind along_get fun _ => along_pure _

theorem bonds_read (a : ArrayId) : Along SameBonds (read a) := by
  intro p
  rw [runFrom_read]
  exact SameBonds.refl p

theorem bonds_place (device : Device) (c : Contents) (order : MemoryOrder) :
    Along SameBonds (place device c order) :=
  fun p => p.sameBonds_addOwning _ _ _

theorem bonds_attachGradient (a : ArrayId) : Along SameBonds (attachGradient a) := by
  intro p
  cases hh : (p.array a).holding with
  | none =>
    rw [attachGradient, runFrom_bind_of_error (runFrom_held_closed hh)]
    exact SameBonds.refl p
  | some h =>
    rw [runFrom_attachGradient hh]
    apply (p.sameBonds_addOwning _ _ _).trans
    apply sameBonds_updateArray
    · rfl
    · rw [array_addOwning_of_has (has_of_holding hh), hh]
      rfl

theorem bonds_toDevice (a : ArrayId) (device : Device) (track : Bool) :
    Along SameBonds (toDevice a device track) := by
  refine along_bind (bonds_items a) fun c => along_bind (bonds_place device c _) fun copy => ?_
  split
  · exact along_bind (bonds_attachGradient copy) fun _ => along_pure copy
  · exact along_pure copy

theorem bonds_reshape (a : ArrayId) (dims : List Int) : Along SameBonds (reshape a dims) := by
  refine along_bind (bonds_held a) fun h => along_bind (bonds_items a) fun c =>
    along_bind (along_ofExcept _) fun d => ?_
  intro p
  rw [runFrom_modifyGet]
  dsimp only
  split
  · exact p.sameBonds_addArray rfl
  · exact p.sameBonds_addOwning _ _ _

theorem bonds_gather (a indices : ArrayId) : Along SameBonds (gather a indices) :=
  along_bind (bonds_items a) fun _ => along_bind (bonds_read indices) fun _ =>
    along_bind (along_ofExcept _) fun rows => along_bind along_get fun _ =>
      bonds_place _ rows _

theorem bonds_set (a : ArrayId) (t : Tensor) : Along SameBonds (set a t) := by
  intro p
  rcases set_cases p a t with ⟨_, herror⟩ | ⟨h, u, -, -, -, hok⟩
  · rw [herror]
    exact SameBonds.refl p
  · rw [hok]
    exact p.sameBonds_updateBuffer _ _

theorem bonds_setFrom (a source : ArrayId) : Along SameBonds (setFrom a source) :=
  along_bind (bonds_held a) fun _ => along_bind (bonds_read source) fun t => bonds_set a t

theorem bonds_overwrite (conversion : Conversion) (a : ArrayId) (c : Contents) :
    Along SameBonds (overwrite conversion a c) := by
  intro p
  rcases overwrite_cases p conversion a c with ⟨_, herror⟩ | ⟨h, old, -, -, -, hrun⟩
  · rw [herror]
    exact SameBonds.refl p
  · rw [hrun]
    exact p.sameBonds_updateBuffer _ _

theorem bonds_setLiteral (a : ArrayId) (l : Literal) : Along SameBonds (setLiteral a l) := by
  intro p
  rcases setLiteral_cases p a l with hsame | ⟨t, hset⟩ | ⟨h, old, new, -, -, -, -, hnew⟩
  · rw [hsame]
    exact SameBonds.refl p
  · rw [hset]
    exact bonds_set a t p
  · rw [hnew]
    exact p.sameBonds_updateBuffer _ _

theorem bonds_fillWith (a : ArrayId) (v : Value) : Along SameBonds (fillWith a v) :=
  along_bind (bonds_held a) fun _ => along_bind (along_ofExcept _) fun l => bonds_setLiteral a l

/-- Whether a request may make or end managers, or bonds between arrays and managers. -/
def Request.binds : Request → Bool
  | newManager _ | newSubManager _ _ | create _ _ _ | createFilled _ _ => true
  | attach _ _ | detach _ | close _ | closeManager _ => true
  | _ => false

theorem sameBonds_after (p : Pool) {r : Request} (hr : r.binds = false) :
    p.SameBonds (r.after p) := by
  cases r with
  | place device c order => exact bonds_place device c order p
  | toDevice a device track => exact bonds_toDevice a device track p
  | attachGradient a => exact bonds_attachGradient a p
  | reshape a dims => exact bonds_reshape a dims p
  | gather a indices => exact bonds_gather a indices p
  | set a values => exact bonds_set a values p
  | setFrom a source => exact bonds_setFrom a source p
  | overwrite conversion a values => exact bonds_overwrite conversion a values p
  | setLiteral a l => exact bonds_setLiteral a l p
  | fillWith a v => exact bonds_fillWith a v p
  | _ => cases hr

/-! ## New managers -/

/-- The manager that is made next. -/
def nextManager (p : Pool) : ManagerId := ⟨p.managers.size⟩

/-- The pool with a new manager below another one. -/
def withSubManager (p : Pool) (m : ManagerId) (device : Device) : Pool :=
  (p.addManager ⟨device.or (p.manager m).device, some m, [], [], true⟩).2.updateManager m
    fun s => { s with children := s.children ++ [p.nextManager] }

section NewManagers

variable (p : Pool)

theorem manager_of_le {m : ManagerId} (hm : p.managers.size ≤ m.index) :
    p.manager m = default := by
  simp [manager, Array.getD_eq_getD_getElem?, hm]

/-- What is open was made. -/
theorem lt_of_isOpen {m : ManagerId} (hm : (p.manager m).isOpen = true) :
    m.index < p.managers.size := by
  apply Nat.lt_of_not_le
  intro hle
  rw [manager_of_le p hle] at hm
  cases hm

theorem manager_addManager (s : ManagerState) (m : ManagerId) :
    (p.addManager s).2.manager m = if m = p.nextManager then s else p.manager m := by
  cases m with
  | mk i => simp only [manager, addManager, getD_push, nextManager, ManagerId.mk.injEq]

theorem managers_size_addManager (s : ManagerState) :
    (p.addManager s).2.managers.size = p.managers.size + 1 := by
  simp [addManager]

theorem managers_size_updateManager (m : ManagerId) (f : ManagerState → ManagerState) :
    (p.updateManager m f).managers.size = p.managers.size := by
  simp [updateManager]

variable {p} in
theorem manager_withSubManager {m : ManagerId} (hm : (p.manager m).isOpen = true)
    (device : Device) (n : ManagerId) :
    (p.withSubManager m device).manager n =
      if n = p.nextManager then ⟨device.or (p.manager m).device, some m, [], [], true⟩
      else if n = m then
        { p.manager m with children := (p.manager m).children ++ [p.nextManager] }
      else p.manager n := by
  have hlt := lt_of_isOpen p hm
  have hne : m ≠ p.nextManager := by
    rintro rfl
    exact Nat.lt_irrefl _ hlt
  rw [withSubManager, manager_updateManager, manager_addManager, managers_size_addManager]
  by_cases hn : n = p.nextManager
  · rw [if_neg fun h => hne (h.1.trans hn), if_pos hn, if_pos hn]
  · rw [if_neg hn, if_neg hn]
    by_cases hnm : n = m
    · rw [if_pos ⟨hnm.symm, by rw [hnm]; exact Nat.lt_succ_of_lt hlt⟩, if_pos hnm, hnm]
    · rw [if_neg fun h => hnm h.1.symm, if_neg hnm]

theorem after_newSubManager (m : ManagerId) (device : Device) :
    (Request.newSubManager m device).after p =
      if (p.manager m).isOpen then p.withSubManager m device else p := by
  rw [Request.after, newSubManager, checkOpen, bind_assoc, runFrom_bind_of_ok (runFrom_get p)]
  cases hopen : (p.manager m).isOpen with
  | false => rfl
  | true => rfl

end NewManagers

/-! ## Bonds that are made and ended -/

/-- The pool after an array was taken off the list of its manager, which it still names. -/
def freed (p : Pool) (a : ArrayId) : Pool :=
  match (p.array a).manager with
  | some m => p.release m a
  | none => p

section Bonds

variable {p : Pool} {a : ArrayId} {m : ManagerId}

theorem isClosed_eq_false_iff : p.isClosed a = false ↔ ∃ h, (p.array a).holding = some h := by
  rw [isClosed, Option.isNone_eq_false_iff, Option.isSome_iff_exists]

theorem holding_of_isClosed (ha : p.isClosed a = true) : (p.array a).holding = none :=
  Option.isNone_iff_eq_none.mp ha

theorem runFrom_attach_closed (ha : p.isClosed a = true) :
    (attach a m).runFrom p = (.error .arrayClosed, p) := by
  rw [attach, runFrom_bind_of_error (runFrom_held_closed (holding_of_isClosed ha))]

theorem runFrom_attach_same (ha : p.isClosed a = false) (hm : (p.array a).manager = some m) :
    (attach a m).runFrom p = (.ok (), p) := by
  obtain ⟨h, hh⟩ := isClosed_eq_false_iff.mp ha
  rw [attach, runFrom_bind_of_ok (runFrom_held hh), runFrom_bind_of_ok (runFrom_get p), hm]
  simp

theorem isOpen_release (old n : ManagerId) :
    ((p.release old a).manager n).isOpen = (p.manager n).isOpen := by
  rw [release, manager_updateManager]
  split
  · rfl
  · rfl

/-- An array that goes over to another manager leaves the list of the old one first; then the new
one may refuse it. -/
theorem runFrom_attach_other (ha : p.isClosed a = false) (hm : (p.array a).manager ≠ some m) :
    (attach a m).runFrom p =
      if (p.manager m).isOpen then (.ok (), (p.freed a).bound a m)
      else (.error .managerClosed, p.freed a) := by
  obtain ⟨h, hh⟩ := isClosed_eq_false_iff.mp ha
  cases hmanager : (p.array a).manager with
  | none =>
    rw [runFrom_attach_unbound hh hmanager, freed, hmanager]
  | some old =>
    have hne : old ≠ m := by
      rintro rfl
      exact hm hmanager
    have hopen : ((p.release old a).manager m).isOpen = (p.manager m).isOpen := isOpen_release _ _
    rw [attach, runFrom_bind_of_ok (runFrom_held hh), runFrom_bind_of_ok (runFrom_get p),
      hmanager, freed, hmanager]
    cases hm : (p.manager m).isOpen with
    | false =>
      rw [hm] at hopen
      simp [runFrom_bind, hne, enlist, hopen]
    | true =>
      rw [hm] at hopen
      simp [runFrom_bind, hne, enlist, hopen, Pool.bound]

/-- An array that is closed, or that names the manager already, stays where it is. -/
theorem after_attach (p : Pool) (a : ArrayId) (m : ManagerId) :
    (Request.attach a m).after p =
      if p.isClosed a = true ∨ (p.array a).manager = some m then p
      else if (p.manager m).isOpen then (p.freed a).bound a m
      else p.freed a := by
  rw [Request.after]
  cases ha : p.isClosed a with
  | true =>
    rw [runFrom_attach_closed ha, if_pos (Or.inl rfl)]
  | false =>
    by_cases hm : (p.array a).manager = some m
    · rw [runFrom_attach_same ha hm, if_pos (Or.inr hm)]
    · have hother : ¬(false = true ∨ (p.array a).manager = some m) := by simp [hm]
      rw [runFrom_attach_other ha hm, if_neg hother]
      split
      · rfl
      · rfl

/-- A manager makes an array, or the pool is as it was. -/
def Makes (p : Pool) (m : ManagerId) (q : Pool) : Prop :=
  q = p ∨ (p.manager m).isOpen = true ∧ ∃ device c, q = p.created m device c

theorem makes_create (p : Pool) (m : ManagerId) (contents : Except Fault Contents)
    (device : Device) : p.Makes m ((Request.create m contents device).after p) := by
  cases hopen : (p.manager m).isOpen with
  | false =>
    left
    rw [Request.after, create, checkOpen, bind_assoc, runFrom_bind_of_ok (runFrom_get p), hopen]
    rfl
  | true =>
    cases contents with
    | error fault =>
      left
      rw [Request.after, create, checkOpen, bind_assoc, runFrom_bind_of_ok (runFrom_get p), hopen]
      rfl
    | ok t =>
      right
      refine ⟨hopen, device, t, ?_⟩
      rw [Request.after, runFrom_create hopen]

theorem makes_createFilled (p : Pool) (m : ManagerId) (contents : Except Fault Tensor) :
    p.Makes m ((Request.createFilled m contents).after p) := by
  cases contents with
  | error fault => exact Or.inl rfl
  | ok t => exact makes_create p m (.ok t) .unset

end Bonds

end Pool

end DataParallel

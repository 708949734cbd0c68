import DataParallel.Pool.Array

/-!
# Looking things up in a changed pool

What every array, buffer and manager is after one elementary change of the
pool.  All later statements about the pool rest on these equations, so that
no other proof opens the tables themselves.
-/

namespace DataParallel

namespace Pool

/-! ## Tables -/

theorem getD_modify {α : Type} (xs : Array α) (i j : Nat) (f : α → α) (d : α) :
    (xs.modify i f).getD j d =
      if i = j ∧ j < xs.size then f (xs.getD j d) else xs.getD j d := by
  rw [Array.getD_eq_getD_getElem?, Array.getD_eq_getD_getElem?,
    Array.getElem?_modify]
  by_cases hij : i = j
  · by_cases hj : j < xs.size
    · simp [hij, hj]
    · simp [hij, hj]
  · simp [hij]

theorem getD_push {α : Type} (xs : Array α) (x : α) (j : Nat) (d : α) :
    (xs.push x).getD j d = if j = xs.size then x else xs.getD j d := by
  rw [Array.getD_eq_getD_getElem?, Array.getD_eq_getD_getElem?,
    Array.getElem?_push]
  by_cases hj : j = xs.size
  · simp [hj]
  · simp [hj]

/-- The array was made in this pool. -/
def Has (p : Pool) (a : ArrayId) : Prop := a.index < p.arrays.size

instance (p : Pool) (a : ArrayId) : Decidable (p.Has a) :=
  inferInstanceAs (Decidable (a.index < p.arrays.size))

theorem has_of_holding {p : Pool} {a : ArrayId} {h : Holding}
    (held : (p.array a).holding = some h) : p.Has a := by
  by_cases ha : a.index < p.arrays.size
  · exact ha
  · have hdefault : p.array a = default := by
      simp [array, Array.getD_eq_getD_getElem?, ha]
    rw [hdefault] at held
    cases held

theorem gradient?_eq_some {p : Pool} {a g : ArrayId} :
    p.gradient? a = some g ↔
      ∃ h, (p.array a).holding = some h ∧ h.gradient = some g := by
  simp [gradient?, Option.bind_eq_some_iff]

/-- The array that is made next. -/
def nextArray (p : Pool) : ArrayId := ⟨p.arrays.size⟩

/-- The buffer that is made next. -/
def nextBuffer (p : Pool) : BufferId := ⟨p.buffers.size⟩

/-! ## Changing what is there -/

variable (p : Pool)

theorem array_updateArray (a b : ArrayId) (f : ArrayState → ArrayState) :
    (p.updateArray a f).array b =
      if a = b ∧ p.Has b then f (p.array b) else p.array b := by
  rcases a with ⟨i⟩
  rcases b with ⟨j⟩
  simp only [array, updateArray, getD_modify, Has, ArrayId.mk.injEq]

theorem buffer_updateBuffer (b c : BufferId) (f : Buffer → Buffer) :
    (p.updateBuffer b f).buffer c =
      if b = c ∧ c.index < p.buffers.size then f (p.buffer c)
      else p.buffer c := by
  rcases b with ⟨i⟩
  rcases c with ⟨j⟩
  simp only [buffer, updateBuffer, getD_modify, BufferId.mk.injEq]

theorem manager_updateManager (m n : ManagerId) (f : ManagerState → ManagerState) :
    (p.updateManager m f).manager n =
      if m = n ∧ n.index < p.managers.size then f (p.manager n)
      else p.manager n := by
  rcases m with ⟨i⟩
  rcases n with ⟨j⟩
  simp only [manager, updateManager, getD_modify, ManagerId.mk.injEq]

@[simp] theorem buffer_updateArray (a : ArrayId) (f : ArrayState → ArrayState) (b : BufferId) :
    (p.updateArray a f).buffer b = p.buffer b := rfl

@[simp] theorem manager_updateArray (a : ArrayId) (f : ArrayState → ArrayState) (m : ManagerId) :
    (p.updateArray a f).manager m = p.manager m := rfl

@[simp] theorem array_updateBuffer (b : BufferId) (f : Buffer → Buffer) (a : ArrayId) :
    (p.updateBuffer b f).array a = p.array a := rfl

@[simp] theorem manager_updateBuffer (b : BufferId) (f : Buffer → Buffer) (m : ManagerId) :
    (p.updateBuffer b f).manager m = p.manager m := rfl

@[simp] theorem array_updateManager (m : ManagerId) (f : ManagerState → ManagerState)
    (a : ArrayId) : (p.updateManager m f).array a = p.array a := rfl

@[simp] theorem buffer_updateManager (m : ManagerId) (f : ManagerState → ManagerState)
    (b : BufferId) : (p.updateManager m f).buffer b = p.buffer b := rfl

@[simp] theorem arrays_size_updateArray (a : ArrayId) (f : ArrayState → ArrayState) :
    (p.updateArray a f).arrays.size = p.arrays.size := by
  simp [updateArray]

@[simp] theorem buffers_size_updateArray (a : ArrayId) (f : ArrayState → ArrayState) :
    (p.updateArray a f).buffers.size = p.buffers.size := rfl

@[simp] theorem arrays_size_updateBuffer (b : BufferId) (f : Buffer → Buffer) :
    (p.updateBuffer b f).arrays.size = p.arrays.size := rfl

@[simp] theorem arrays_size_updateManager (m : ManagerId) (f : ManagerState → ManagerState) :
    (p.updateManager m f).arrays.size = p.arrays.size := rfl

@[simp] theorem buffers_size_updateManager (m : ManagerId) (f : ManagerState → ManagerState) :
    (p.updateManager m f).buffers.size = p.buffers.size := rfl

@[simp] theorem buffers_size_updateBuffer (b : BufferId) (f : Buffer → Buffer) :
    (p.updateBuffer b f).buffers.size = p.buffers.size := by
  simp [updateBuffer]

/-! ## Adding arrays and buffers -/

theorem array_addArray (s : ArrayState) (a : ArrayId) :
    (p.addArray s).2.array a = if a = p.nextArray then s else p.array a := by
  rcases a with ⟨i⟩
  simp only [array, addArray, getD_push, nextArray, ArrayId.mk.injEq]

theorem arrays_size_addArray (s : ArrayState) :
    (p.addArray s).2.arrays.size = p.arrays.size + 1 := by
  simp [addArray]

theorem buffer_addBuffer (b : Buffer) (c : BufferId) :
    (p.addBuffer b).2.buffer c = if c = p.nextBuffer then b else p.buffer c := by
  rcases c with ⟨i⟩
  simp only [buffer, addBuffer, getD_push, nextBuffer, BufferId.mk.injEq]

theorem buffers_size_addBuffer (b : Buffer) :
    (p.addBuffer b).2.buffers.size = p.buffers.size + 1 := by
  simp [addBuffer]

variable (device : Device) (b : Buffer) (shape : Shape)

theorem addOwning_snd :
    (p.addOwning device b shape).2 =
      ((p.addBuffer b).2.addArray ⟨device, none, some ⟨p.nextBuffer, shape, none⟩⟩).2 :=
  rfl

theorem arrays_size_addOwning :
    (p.addOwning device b shape).2.arrays.size = p.arrays.size + 1 :=
  arrays_size_addArray _ _

theorem buffers_size_addOwning :
    (p.addOwning device b shape).2.buffers.size = p.buffers.size + 1 :=
  buffers_size_addBuffer _ _

theorem array_addOwning (a : ArrayId) :
    (p.addOwning device b shape).2.array a =
      if a = p.nextArray then ⟨device, none, some ⟨p.nextBuffer, shape, none⟩⟩
      else p.array a :=
  array_addArray _ _ a

theorem buffer_addOwning (c : BufferId) :
    (p.addOwning device b shape).2.buffer c =
      if c = p.nextBuffer then b else p.buffer c :=
  buffer_addBuffer _ _ c

end Pool

end DataParallel

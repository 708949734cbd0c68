import DataParallel.Proofs.Pool.Evolution

/-!
# Writing into arrays

What a write leaves in the array that is written, and that arrays with other
buffers are not touched by it.
-/

namespace DataParallel

namespace Pool

/-! ## What arrays hold -/

/-- The buffer that an open array refers to. -/
def buffer? (p : Pool) (a : ArrayId) : Option BufferId :=
  (p.array a).holding.map Holding.buffer

section Holding

variable {p : Pool} {a : ArrayId} {h : Holding}

theorem items?_of_holding (hh : (p.array a).holding = some h) :
    p.items? a = some ((p.buffer h.buffer).contents.withShape h.shape) := by
  rw [items?, hh, Option.map_some]

/-- An array that can be read is open. -/
theorem exists_holding_of_items? {c : Contents} (hc : p.items? a = some c) :
    ∃ k, (p.array a).holding = some k := by
  obtain ⟨k, hk, -⟩ := Option.map_eq_some_iff.mp hc
  exact ⟨k, hk⟩

theorem items?_eq_none : p.items? a = none ↔ (p.array a).holding = none := by
  rw [items?, Option.map_eq_none_iff]

theorem contents?_eq_some {t : Tensor} :
    p.contents? a = some t ↔ p.items? a = some (.tensor t) := by
  rw [contents?, Option.bind_eq_some_iff]
  simp only [Contents.tensor?_eq_some]
  exact ⟨fun ⟨_, hc, ht⟩ => ht ▸ hc, fun hc => ⟨_, hc, rfl⟩⟩

/-- What is read through an array has the type of what is in its buffer. -/
theorem itemType_of_items? {c : Contents} (hh : (p.array a).holding = some h)
    (hc : p.items? a = some c) : c.itemType = (p.buffer h.buffer).contents.itemType := by
  rw [items?_of_holding hh] at hc
  rw [← Option.some.inj hc, Contents.itemType_withShape]

/-- An open array of a sound pool has the shape of what it holds. -/
theorem Sound.shape_of_items? {c : Contents} (hp : p.Sound)
    (hh : (p.array a).holding = some h) (hc : p.items? a = some c) : c.shape = h.shape := by
  rw [items?_of_holding hh] at hc
  rw [← Option.some.inj hc]
  exact Contents.shape_withShape (hp.size_eq hh)

/-- An array of numbers has numbers in its buffer. -/
theorem exists_tensor_of_contents? {t : Tensor} (hh : (p.array a).holding = some h)
    (ht : p.contents? a = some t) :
    ∃ u, (p.buffer h.buffer).contents = .tensor u ∧ t = u.withShape h.shape := by
  rw [contents?_eq_some, items?_of_holding hh] at ht
  rcases hc : (p.buffer h.buffer).contents with u | c
  · rw [hc] at ht
    exact ⟨u, rfl, (Contents.tensor.inj (Option.some.inj ht)).symm⟩
  · rw [hc] at ht
    cases ht

theorem dtype_of_contents? {t : Tensor} (hh : (p.array a).holding = some h)
    (ht : p.contents? a = some t) :
    (p.buffer h.buffer).contents.itemType = .number t.dtype :=
  (itemType_of_items? hh (contents?_eq_some.mp ht)).symm

end Holding

/-- An open array of numbers refers to a buffer. -/
theorem exists_buffer?_of_contents? {p : Pool} {a : ArrayId} {t : Tensor}
    (ht : p.contents? a = some t) : ∃ b, p.buffer? a = some b := by
  obtain ⟨k, hk⟩ := exists_holding_of_items? (contents?_eq_some.mp ht)
  exact ⟨k.buffer, by rw [buffer?, hk, Option.map_some]⟩

theorem has_of_items? {p : Pool} {a : ArrayId} {c : Contents} (hc : p.items? a = some c) :
    p.Has a := by
  obtain ⟨k, hk⟩ := exists_holding_of_items? hc
  exact has_of_holding hk

theorem has_of_contents? {p : Pool} {a : ArrayId} {t : Tensor} (ht : p.contents? a = some t) :
    p.Has a :=
  has_of_items? (contents?_eq_some.mp ht)

theorem runFrom_items {p : Pool} {a : ArrayId} {c : Contents} (hc : p.items? a = some c) :
    (items a).runFrom p = (.ok c, p) := by
  obtain ⟨h, hh, rfl⟩ := Option.map_eq_some_iff.mp hc
  rw [items, Step.runFrom_bind_of_ok (runFrom_held hh)]
  rfl

theorem runFrom_items_closed {p : Pool} {a : ArrayId} (hc : p.items? a = none) :
    (items a).runFrom p = (.error .arrayClosed, p) := by
  rw [items, Step.runFrom_bind_of_error (runFrom_held_closed (items?_eq_none.mp hc))]

/-! ## Numbers -/

/-- The pool after a tensor was written into a buffer. -/
def written (p : Pool) (b : BufferId) (t : Tensor) : Pool :=
  p.updateBuffer b fun old => { old with contents := old.contents.withNumbers t }

section Written

variable {p : Pool} {b : BufferId} {t : Tensor}

@[simp] theorem array_written (a : ArrayId) : (p.written b t).array a = p.array a := rfl

theorem contents_written (hb : b.index < p.buffers.size) :
    ((p.written b t).buffer b).contents = (p.buffer b).contents.withNumbers t := by
  rw [written, buffer_updateBuffer, if_pos ⟨rfl, hb⟩]

theorem evolves_written (hsize : p.Sound → t.size = (p.buffer b).contents.size) :
    p.Evolves (p.written b t) := by
  apply evolves_updateBuffer
  · exact Contents.itemType_withNumbers _ t
  · intro hp
    exact Contents.size_withNumbers (hsize hp)

end Written

/-- A change of another buffer is not seen through an array. -/
theorem items?_updateBuffer_of_ne {p : Pool} {b : BufferId} {f : Buffer → Buffer} {a : ArrayId}
    (h : p.buffer? a ≠ some b) : (p.updateBuffer b f).items? a = p.items? a := by
  simp only [items?, array_updateBuffer]
  rcases hh : (p.array a).holding with _ | k
  · rfl
  · have hne : b ≠ k.buffer := by
      rintro rfl
      exact h (by rw [buffer?, hh]; rfl)
    simp only [Option.map_some, buffer_updateBuffer, hne, false_and, if_false]

theorem items?_written_of_ne {p : Pool} {b : BufferId} {t : Tensor} {a : ArrayId}
    (h : p.buffer? a ≠ some b) : (p.written b t).items? a = p.items? a :=
  items?_updateBuffer_of_ne h

theorem contents?_written_of_ne {p : Pool} {b : BufferId} {t : Tensor} {a : ArrayId}
    (h : p.buffer? a ≠ some b) : (p.written b t).contents? a = p.contents? a :=
  congrArg (·.bind Contents.tensor?) (items?_written_of_ne h)

section Set

variable {p : Pool} {a : ArrayId} {t : Tensor}

theorem runFrom_set {h : Holding} {u : Tensor} (hh : (p.array a).holding = some h)
    (hu : p.contents? a = some u) (hshape : t.shape = h.shape) :
    (set a t).runFrom p = (.ok (), p.written h.buffer t) := by
  obtain ⟨old, hold, -⟩ := exists_tensor_of_contents? hh hu
  rw [set, Step.runFrom_bind_of_ok (runFrom_held hh)]
  simp [Step.runFrom_bind, hshape, hold, written]

theorem runFrom_set_misshapen {h : Holding} (hh : (p.array a).holding = some h)
    (hshape : t.shape ≠ h.shape) :
    (set a t).runFrom p = (.error (.shapeMismatch h.shape t.shape), p) := by
  rw [set, Step.runFrom_bind_of_ok (runFrom_held hh)]
  simp [hshape]

theorem runFrom_set_closed (hh : (p.array a).holding = none) :
    (set a t).runFrom p = (.error .arrayClosed, p) := by
  rw [set, Step.runFrom_bind_of_error (runFrom_held_closed hh)]

theorem runFrom_set_carried {h : Holding} {c : CarriedItems} (hh : (p.array a).holding = some h)
    (hc : (p.buffer h.buffer).contents = .carried c) (hshape : t.shape = h.shape) :
    (set a t).runFrom p = (.error .notNumbers, p) := by
  rw [set, Step.runFrom_bind_of_ok (runFrom_held hh)]
  simp [Step.runFrom_bind, hshape, hc, Contents.tensor?]

variable (p a t) in
/-- Every write fails and changes nothing, or writes the tensor into the buffer of an open array of
numbers that has its shape. -/
theorem set_cases :
    (∃ fault, (set a t).runFrom p = (.error fault, p)) ∨
      ∃ h u, (p.array a).holding = some h ∧ p.contents? a = some u ∧ t.shape = h.shape ∧
        (set a t).runFrom p = (.ok (), p.written h.buffer t) := by
  rcases hh : (p.array a).holding with _ | h
  · exact Or.inl ⟨_, runFrom_set_closed hh⟩
  · by_cases hshape : t.shape = h.shape
    · rcases hc : (p.buffer h.buffer).contents with u | c
      · have hu : p.contents? a = some (u.withShape h.shape) := by
          rw [contents?_eq_some, items?_of_holding hh, hc]
          rfl
        exact Or.inr ⟨h, _, rfl, hu, hshape, runFrom_set hh hu hshape⟩
      · exact Or.inl ⟨_, runFrom_set_carried hh hc hshape⟩
    · exact Or.inl ⟨_, runFrom_set_misshapen hh hshape⟩

/-- A write that fails changes nothing. -/
theorem set_error {q : Pool} {fault : Fault} (hrun : (set a t).runFrom p = (.error fault, q)) :
    q = p := by
  rcases set_cases p a t with ⟨_, herror⟩ | ⟨h, u, -, -, -, hok⟩
  · rw [herror] at hrun
    exact (Prod.mk.inj hrun).2.symm
  · rw [hok] at hrun
    cases hrun

/-- A write that succeeds found an open array of numbers of the shape of the tensor. -/
theorem set_eq_ok {q : Pool} (hrun : (set a t).runFrom p = (.ok (), q)) :
    ∃ h u, (p.array a).holding = some h ∧ p.contents? a = some u ∧ t.shape = h.shape ∧
      q = p.written h.buffer t := by
  rcases set_cases p a t with ⟨_, herror⟩ | ⟨h, u, hh, hu, hshape, hok⟩
  · rw [herror] at hrun
    cases hrun
  · rw [hok] at hrun
    exact ⟨h, u, hh, hu, hshape, (Prod.mk.inj hrun).2.symm⟩

variable (p a t) in
/-- A write changes buffers only. -/
theorem table_set : ((set a t).runFrom p).2.arrays = p.arrays := by
  rcases set_cases p a t with ⟨_, herror⟩ | ⟨h, u, -, -, -, hok⟩
  · rw [herror]
  · rw [hok]
    rfl

theorem items?_set_of_ne {b : ArrayId} (h : ∀ c ∈ p.buffer? a, p.buffer? b ≠ some c) :
    ((set a t).runFrom p).2.items? b = p.items? b := by
  rcases set_cases p a t with ⟨_, herror⟩ | ⟨k, u, hk, -, -, hok⟩
  · rw [herror]
  · rw [hok]
    exact items?_written_of_ne (h k.buffer (by simp [buffer?, hk]))

theorem contents?_set_of_ne {b : ArrayId} (h : ∀ c ∈ p.buffer? a, p.buffer? b ≠ some c) :
    ((set a t).runFrom p).2.contents? b = p.contents? b :=
  congrArg (·.bind Contents.tensor?) (items?_set_of_ne h)

/-- The array that was written holds the tensor in its own element type. -/
theorem contents?_written_self (hp : p.Sound) {h : Holding} {u : Tensor}
    (hh : (p.array a).holding = some h) (hu : p.contents? a = some u) (hshape : t.shape = h.shape) :
    (p.written h.buffer t).contents? a = some (t.cast u.dtype) := by
  obtain ⟨old, hold, rfl⟩ := exists_tensor_of_contents? hh hu
  have hsize : (t.cast old.dtype).size = old.size := by
    have hown := hp.size_eq hh
    rw [hold] at hown
    exact (congrArg Shape.size hshape).trans hown.symm
  have hback := Tensor.withShape_withShape hsize
  have hheld : ((p.written h.buffer t).array a).holding = some h := hh
  rw [contents?_eq_some, items?_of_holding hheld, contents_written (hp.buffer_lt hh), hold,
    ← hshape, Contents.withNumbers, Contents.withShape_tensor, Tensor.dtype_withShape]
  exact congrArg some (congrArg Contents.tensor hback)

variable (a t) in
theorem along_set : Step.Along Evolves (set a t) := by
  intro p
  rcases set_cases p a t with ⟨_, herror⟩ | ⟨h, u, hh, -, hshape, hok⟩
  · rw [herror]
    exact Evolves.refl p
  · rw [hok]
    apply evolves_written
    intro hp
    rw [hp.size_eq hh, ← hshape]
    rfl

end Set

/-! ## Items of any type -/

/-- The pool after something else of the same type was put into a buffer, in its shape. -/
def converted (p : Pool) (b : BufferId) (c : Contents) : Pool :=
  p.updateBuffer b fun old => { old with contents := c.withShape old.contents.shape }

section Overwrite

variable {p : Pool} {conversion : Conversion} {a : ArrayId} {h : Holding} {c old : Contents}

theorem evolves_converted (hh : (p.array a).holding = some h)
    (htype : c.itemType = (p.buffer h.buffer).contents.itemType)
    (hshape : p.Sound → c.shape = h.shape) : p.Evolves (p.converted h.buffer c) := by
  apply evolves_updateBuffer
  · exact (Contents.itemType_withShape c _).trans htype
  · intro hp
    have hsize : c.size = (p.buffer h.buffer).contents.size :=
      (congrArg Shape.size (hshape hp)).trans (hp.size_eq hh).symm
    exact (Contents.size_withShape c _).trans hsize

/-- The array that was converted holds what came out. -/
theorem items?_converted_self (hp : p.Sound) (hh : (p.array a).holding = some h)
    (hshape : c.shape = h.shape) : (p.converted h.buffer c).items? a = some c := by
  have hheld : ((p.converted h.buffer c).array a).holding = some h := hh
  have hsize : c.size = (p.buffer h.buffer).contents.shape.size :=
    (congrArg Shape.size hshape).trans (hp.size_eq hh).symm
  rw [items?_of_holding hheld, converted, buffer_updateBuffer, if_pos ⟨rfl, hp.buffer_lt hh⟩,
    ← hshape]
  exact congrArg some (Contents.withShape_withShape hsize)

theorem runFrom_overwrite_closed (hclosed : p.items? a = none) :
    (overwrite conversion a c).runFrom p = (.error .arrayClosed, p) := by
  rw [overwrite, Step.runFrom_bind_of_error (runFrom_held_closed (items?_eq_none.mp hclosed))]

theorem runFrom_overwrite_misshapen (hh : (p.array a).holding = some h)
    (hshape : c.shape ≠ h.shape) :
    (overwrite conversion a c).runFrom p = (.error (.shapeMismatch h.shape c.shape), p) := by
  rw [overwrite, Step.runFrom_bind_of_ok (runFrom_held hh)]
  simp [hshape]

variable (conversion) in
/-- The array takes what comes of the conversion, also of one that failed. -/
theorem runFrom_overwrite (hh : (p.array a).holding = some h) (hold : p.items? a = some old)
    (hshape : c.shape = h.shape) :
    (overwrite conversion a c).runFrom p =
      ((conversion.write (p.buffer h.buffer).order old c).2,
        p.converted h.buffer (conversion.write (p.buffer h.buffer).order old c).1) := by
  rw [items?_of_holding hh] at hold
  rw [overwrite, Step.runFrom_bind_of_ok (runFrom_held hh), ← Option.some.inj hold]
  simp [Step.runFrom_bind, hshape, converted]

variable (p conversion a c) in
/-- Every overwriting fails and changes nothing, or puts what comes of the conversion into the
buffer of an open array of the shape. -/
theorem overwrite_cases :
    (∃ fault, (overwrite conversion a c).runFrom p = (.error fault, p)) ∨
      ∃ h old, (p.array a).holding = some h ∧ p.items? a = some old ∧ c.shape = h.shape ∧
        (overwrite conversion a c).runFrom p =
          ((conversion.write (p.buffer h.buffer).order old c).2,
            p.converted h.buffer (conversion.write (p.buffer h.buffer).order old c).1) := by
  rcases hold : p.items? a with _ | old
  · exact Or.inl ⟨_, runFrom_overwrite_closed hold⟩
  · obtain ⟨h, hh⟩ := exists_holding_of_items? hold
    by_cases hshape : c.shape = h.shape
    · exact Or.inr ⟨h, old, hh, rfl, hshape, runFrom_overwrite conversion hh hold hshape⟩
    · exact Or.inl ⟨_, runFrom_overwrite_misshapen hh hshape⟩

variable (conversion a c) in
theorem along_overwrite : Step.Along Evolves (overwrite conversion a c) := by
  intro p
  rcases overwrite_cases p conversion a c with ⟨_, herror⟩ | ⟨h, old, hh, hold, hshape, hrun⟩
  · rw [herror]
    exact Evolves.refl p
  · rw [hrun]
    apply evolves_converted hh
    · rw [conversion.itemType_write, itemType_of_items? hh hold]
    · intro hp
      have hown := hp.shape_of_items? hh hold
      rw [conversion.shape_write _ _ _ (hshape.trans hown.symm), hown]

end Overwrite

end Pool

end DataParallel

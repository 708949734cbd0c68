import DataParallel.Proofs.Pool.Operations

/-!
# Overwriting many arrays

Writing one tensor into arrays one after the other changes nothing but the
contents of their buffers.  What an array then holds is clear as soon as no
other array of the list has its buffer.
-/

namespace DataParallel

namespace Pool

/-- No other array of the list refers to the buffer of this one. -/
def Clear (p : Pool) (x : ArrayId) (arrays : List ArrayId) : Prop :=
  ∀ a ∈ arrays, a ≠ x → ∀ b ∈ p.buffer? x, p.buffer? a ≠ some b

/-- The pool after a tensor was written into arrays. -/
structure Overwritten (p q : Pool) (arrays : List ArrayId) (t : Tensor) : Prop where
  table : q.arrays = p.arrays
  evolves : p.Evolves q
  contents : p.Sound → ∀ x, p.Clear x arrays →
    q.contents? x = if x ∈ arrays then (p.contents? x).map fun u => t.cast u.dtype
      else p.contents? x

section SameArrays

variable {p q : Pool} (h : q.arrays = p.arrays)

include h

theorem array_congr (a : ArrayId) : q.array a = p.array a := by
  rw [array, array, h]

theorem buffer?_congr (a : ArrayId) : q.buffer? a = p.buffer? a := by
  rw [buffer?, buffer?, array_congr h]

theorem gradient?_congr (a : ArrayId) : q.gradient? a = p.gradient? a := by
  rw [gradient?, gradient?, array_congr h]

theorem Clear.congr {x : ArrayId} {arrays : List ArrayId} (hclear : p.Clear x arrays) :
    q.Clear x arrays := by
  intro a ha hne b hb
  rw [buffer?_congr h] at hb ⊢
  exact hclear a ha hne b hb

end SameArrays

theorem Sound.exists_holding {p : Pool} (hp : p.Sound) {a : ArrayId} {t : Tensor}
    (ht : p.contents? a = some t) :
    ∃ h, (p.array a).holding = some h ∧ t.shape = h.shape ∧
      (p.buffer h.buffer).contents.itemType = .number t.dtype := by
  have hitems := contents?_eq_some.mp ht
  obtain ⟨h, hh⟩ := exists_holding_of_items? hitems
  exact ⟨h, hh, hp.shape_of_items? hh hitems, dtype_of_contents? hh ht⟩

/-- What is open now was open before, and held items of the same type in the same shape. -/
theorem Evolves.exists_items? {p q : Pool} (h : p.Evolves q) (hp : p.Sound) {a : ArrayId}
    {c : Contents} (ha : p.Has a) (hc : q.items? a = some c) :
    ∃ old, p.items? a = some old ∧ old.itemType = c.itemType ∧ old.shape = c.shape := by
  obtain ⟨k, hk⟩ := exists_holding_of_items? hc
  obtain ⟨j, hj, hbuffer, hkj⟩ := h.holding ha hk
  have hold := items?_of_holding hj
  refine ⟨_, hold, ?_, ?_⟩
  · rw [itemType_of_items? hj hold, itemType_of_items? hk hc, hbuffer,
      h.itemType (hp.buffer_lt hj)]
  · rw [hp.shape_of_items? hj hold, (h.sound hp).shape_of_items? hk hc, hkj]

/-- Numbers that are there now are in place of numbers of the same element type and shape. -/
theorem Evolves.exists_contents? {p q : Pool} (h : p.Evolves q) (hp : p.Sound) {a : ArrayId}
    {t : Tensor} (ha : p.Has a) (ht : q.contents? a = some t) :
    ∃ old, p.contents? a = some old ∧ old.dtype = t.dtype ∧ old.shape = t.shape := by
  obtain ⟨c, hc, htype, hshape⟩ := h.exists_items? hp ha (contents?_eq_some.mp ht)
  obtain ⟨old, rfl, hdtype⟩ := Contents.exists_tensor_of_itemType htype
  exact ⟨old, contents?_eq_some.mpr hc, hdtype, hshape⟩

/-- An array of numbers holds numbers for as long as it is open. -/
theorem Evolves.still_numbers {p q : Pool} (h : p.Evolves q) (hp : p.Sound) {a : ArrayId}
    {t : Tensor} {k : Holding} (ht : p.contents? a = some t)
    (hk : (q.array a).holding = some k) : ∃ u, q.contents? a = some u := by
  have hnow := items?_of_holding hk
  obtain ⟨old, hold, htype, -⟩ := h.exists_items? hp (has_of_contents? ht) hnow
  obtain rfl : Contents.tensor t = old :=
    Option.some.inj ((contents?_eq_some.mp ht).symm.trans hold)
  obtain ⟨u, hu, -⟩ := Contents.exists_tensor_of_itemType htype.symm
  exact ⟨u, contents?_eq_some.mpr (hnow.trans (congrArg some hu))⟩

/-- A tensor in an array stays there when it is written into other arrays. -/
theorem contents?_written_again {p : Pool} (hp : p.Sound) {a : ArrayId} {b : BufferId} {t : Tensor}
    {d : Dtype} (ha : p.contents? a = some (t.cast d)) :
    (p.written b t).contents? a = some (t.cast d) := by
  obtain ⟨j, hj, hshape, -⟩ := hp.exists_holding ha
  have hfits : t.shape = j.shape := hshape
  by_cases hbuffer : j.buffer = b
  · rw [← hbuffer, contents?_written_self hp hj ha hfits]
    rfl
  · have hother : p.buffer? a ≠ some b := by
      rw [buffer?, hj]
      intro heq
      exact hbuffer (Option.some.inj heq)
    rw [contents?_written_of_ne hother, ha]

/-- A write that succeeds leaves the tensor in the array, in its own element type. -/
theorem contents?_set_self {p q : Pool} (hp : p.Sound) {a : ArrayId} {t : Tensor}
    (hrun : (set a t).runFrom p = (.ok (), q)) :
    ∃ b old, q = p.written b t ∧ p.contents? a = some old ∧
      q.contents? a = some (t.cast old.dtype) := by
  obtain ⟨k, old, hk, hold, hshape, hq⟩ := set_eq_ok hrun
  refine ⟨k.buffer, old, hq, hold, ?_⟩
  rw [hq]
  exact contents?_written_self hp hk hold hshape

theorem Overwritten.nil (p : Pool) (t : Tensor) : Overwritten p p [] t :=
  ⟨rfl, Evolves.refl p, fun _ _ _ => rfl⟩

/-- One more array was written before the others. -/
theorem Overwritten.cons {p q : Pool} {a : ArrayId} {arrays : List ArrayId} {h : Holding}
    {t u : Tensor} (hh : (p.array a).holding = some h) (hu : p.contents? a = some u)
    (hshape : t.shape = h.shape)
    (hrest : Overwritten (p.written h.buffer t) q arrays t) :
    Overwritten p q (a :: arrays) t := by
  have hwritten : p.Evolves (p.written h.buffer t) := by
    apply evolves_written
    intro hp
    rw [hp.size_eq hh, ← hshape]
    rfl
  refine ⟨hrest.table, hwritten.trans hrest.evolves, fun hp x hclear => ?_⟩
  have hthen := hrest.contents (hwritten.sound hp) x
    fun c hc => hclear c (List.mem_cons_of_mem _ hc)
  have hown : (p.written h.buffer t).contents? a =
      (p.contents? a).map fun u => t.cast u.dtype := by
    rw [contents?_written_self hp hh hu hshape, hu, Option.map_some]
  by_cases hxa : x = a
  · subst hxa
    rw [if_pos (List.mem_cons_self ..), hthen, hown]
    split
    · rw [Option.map_map]
      rfl
    · rfl
  · have hbuffer : p.buffer? x ≠ some h.buffer := by
      intro heq
      exact hclear a (List.mem_cons_self ..) (Ne.symm hxa) h.buffer heq (by simp [buffer?, hh])
    rw [hthen, contents?_written_of_ne hbuffer]
    simp only [List.mem_cons, hxa, false_or]

end Pool

end DataParallel

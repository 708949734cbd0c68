import DataParallel.Proofs.Pool.Writing

/-!
# Tracked copies

A copy of an array on a device is a new array with a new buffer and a new
gradient.  Making one, and binding it to a manager, leaves everything that was
in the pool before as it was, also when the manager refuses the copy.
-/

namespace DataParallel

namespace Pool

/-- A new array of `q` that holds the given contents on a device, with a gradient, and
shares its buffer with no older array. -/
structure IsCopy (p q : Pool) (device : Device) (t : Contents) (c : ArrayId) : Prop where
  fresh : ¬p.Has c
  has : q.Has c
  device : (q.array c).device = device.or .cpu
  contents : q.items? c = some t
  tracked : (q.gradient? c).isSome
  original : q.Original c
  lone : q.Lone c

section Extends

variable {p q : Pool} (h : p.Extends q) (hp : p.Sound) {a : ArrayId} (ha : p.Has a)

include h hp ha

theorem Extends.items? : q.items? a = p.items? a := by
  rw [Pool.items?, Pool.items?, h.array ha]
  rcases hh : (p.array a).holding with _ | k
  · rfl
  · simp [h.buffer (hp.buffer_lt hh)]

theorem Extends.contents? : q.contents? a = p.contents? a :=
  congrArg (·.bind Contents.tensor?) (h.items? hp ha)

end Extends

/-- A copy stays one while the pool is extended. -/
theorem IsCopy.extends {p q r : Pool} {device : Device} {t : Contents} {c : ArrayId}
    (hc : IsCopy p q device t c) (h : q.Extends r) (hq : q.Sound) :
    IsCopy p r device t c where
  fresh := hc.fresh
  has := h.has hc.has
  device := by rw [h.array hc.has, hc.device]
  contents := (h.items? hq hc.has).trans hc.contents
  tracked := by
    rw [gradient?, h.array hc.has]
    exact hc.tracked
  original := hc.original.evolves hc.has h.evolves
  lone := hc.lone.evolves hq hc.has h.evolves

/-- A copy that is new in a larger pool is new in a smaller one. -/
theorem IsCopy.of_extends {p q r : Pool} {device : Device} {t : Contents} {c : ArrayId}
    (h : p.Extends q) (hc : IsCopy q r device t c) : IsCopy p r device t c :=
  { hc with fresh := fun hp => hc.fresh (h.has hp) }

/-! ## Making a copy -/

/-- The pool with contents in a new tracked array. -/
def copied (p : Pool) (device : Device) (t : Contents) : Pool :=
  (p.addOwning (device.or .cpu) ⟨t, .rowMajor⟩ t.shape).2.tracked p.nextArray
    ⟨p.nextBuffer, t.shape, none⟩

section Copied

variable {p : Pool} {device : Device} {t : Contents}

theorem holding_addOwning_next {b : Buffer} {shape : Shape} :
    ((p.addOwning device b shape).2.array p.nextArray).holding =
      some ⟨p.nextBuffer, shape, none⟩ := by
  rw [array_addOwning_next]

theorem has_copied_next : (p.copied device t).Has p.nextArray := by
  rw [Has, copied, arrays_size_tracked, arrays_size_addOwning]
  exact Nat.lt_succ_of_lt (Nat.lt_succ_self _)

theorem extends_copied : p.Extends (p.copied device t) where
  arrays_le := by
    rw [copied, arrays_size_tracked, arrays_size_addOwning]
    omega
  buffers_le := by
    rw [copied, buffers_size_tracked, buffers_size_addOwning]
    omega
  array := by
    intro a ha
    have hne : a ≠ p.nextArray := by
      rintro rfl
      exact Nat.lt_irrefl _ ha
    rw [copied, array_tracked_of_ne (has_addOwning ha) hne, array_addOwning_of_has ha]
  buffer := by
    intro b hb
    rw [copied, buffer_tracked_of_lt, buffer_addOwning_of_lt hb]
    rw [buffers_size_addOwning]
    exact Nat.lt_succ_of_lt hb
  sound hp := ((extends_addOwning rfl).sound hp).tracked holding_addOwning_next

theorem isCopy_copied (hp : p.Sound) :
    IsCopy p (p.copied device t) device t p.nextArray := by
  have hnext : (p.addOwning (device.or .cpu) ⟨t, .rowMajor⟩ t.shape).2.Has p.nextArray :=
    has_of_holding holding_addOwning_next
  constructor
  · exact Nat.lt_irrefl _
  · exact has_copied_next
  · rw [copied, array_tracked_self hnext, array_addOwning_next]
  · simp only [items?, copied, array_tracked_self hnext, Option.map_some]
    rw [buffer_tracked_of_lt, buffer_addOwning_next, Contents.withShape_shape]
    rw [buffers_size_addOwning]
    exact Nat.lt_succ_self _
  · simp [gradient?, copied, array_tracked_self hnext]
  · have horiginal : (p.addOwning (device.or .cpu) ⟨t, .rowMajor⟩ t.shape).2.Original
        p.nextArray := by
      apply original_nextArray hp
      · intro x hx
        exact array_addOwning_of_has hx
      · intro k hk
        rw [holding_addOwning_next] at hk
        rw [← Option.some.inj hk]
    exact horiginal.evolves hnext (evolves_tracked holding_addOwning_next)
  · exact (lone_addOwning_next hp).evolves ((extends_addOwning rfl).sound hp) hnext
      (evolves_tracked holding_addOwning_next)

theorem runFrom_toDevice {a : ArrayId} (ht : p.items? a = some t) :
    (toDevice a device true).runFrom p = (.ok p.nextArray, p.copied device t) := by
  have hplace : (place device t).runFrom p =
      (.ok p.nextArray, (p.addOwning (device.or .cpu) ⟨t, .rowMajor⟩ t.shape).2) := rfl
  rw [toDevice, Step.runFrom_bind_of_ok (runFrom_items ht), Step.runFrom_bind_of_ok hplace]
  simp only [↓reduceIte]
  rw [Step.runFrom_bind_of_ok (runFrom_attachGradient holding_addOwning_next)]
  rfl

theorem runFrom_toDevice_closed {a : ArrayId} {track : Bool} (ht : p.items? a = none) :
    (toDevice a device track).runFrom p = (.error .arrayClosed, p) := by
  rw [toDevice, Step.runFrom_bind_of_error (runFrom_items_closed ht)]

end Copied

/-! ## Binding a copy to a manager -/

/-- The pool with an array on the list of a manager. -/
def bound (p : Pool) (a : ArrayId) (m : ManagerId) : Pool :=
  (p.updateManager m fun s =>
    { s with resources := if a ∈ s.resources then s.resources else s.resources ++ [a] }).updateArray
      a fun s => { s with manager := some m }

theorem array_bound_of_ne {p : Pool} {a b : ArrayId} {m : ManagerId} (h : b ≠ a) :
    (p.bound a m).array b = p.array b := by
  rw [bound, array_updateArray, if_neg fun hb => h hb.1.symm, array_updateManager]

theorem evolves_bound (p : Pool) (a : ArrayId) (m : ManagerId) : p.Evolves (p.bound a m) :=
  (extends_updateManager p m _).evolves.trans
    (evolves_updateArray _ a (fun _ => rfl) fun _ => Or.inl rfl)

theorem holding_bound {p : Pool} {a b : ArrayId} {m : ManagerId} :
    ((p.bound a m).array b).holding = (p.array b).holding := by
  rw [bound, array_updateArray]
  split <;> rfl

/-- Binding a new array is no change of the pool that did not have it. -/
theorem Extends.bound {p q : Pool} (h : p.Extends q) {c : ArrayId} (hc : ¬p.Has c)
    (m : ManagerId) : p.Extends (q.bound c m) where
  arrays_le := Nat.le_trans h.arrays_le (evolves_bound q c m).arrays_le
  buffers_le := h.buffers_le
  array := by
    intro a ha
    rw [array_bound_of_ne, h.array ha]
    rintro rfl
    exact hc ha
  buffer := h.buffer
  sound hp := (evolves_bound q c m).sound (h.sound hp)

theorem IsCopy.bound {p q : Pool} {device : Device} {t : Contents} {c : ArrayId}
    (hc : IsCopy p q device t c) (m : ManagerId) : IsCopy p (q.bound c m) device t c where
  fresh := hc.fresh
  has := (evolves_bound q c m).has hc.has
  device := by rw [(evolves_bound q c m).device hc.has, hc.device]
  contents := by
    rw [items?, holding_bound]
    exact hc.contents
  tracked := by
    rw [gradient?, holding_bound]
    exact hc.tracked
  original := hc.original.evolves hc.has (evolves_bound q c m)
  lone := by
    intro x
    rw [gradient?, holding_bound]
    exact hc.lone x

theorem runFrom_attach_unbound {p : Pool} {a : ArrayId} {h : Holding} {m : ManagerId}
    (hh : (p.array a).holding = some h) (hm : (p.array a).manager = none) :
    (attach a m).runFrom p =
      if (p.manager m).isOpen then (.ok (), p.bound a m) else (.error .managerClosed, p) := by
  rw [attach, Step.runFrom_bind_of_ok (runFrom_held hh)]
  rcases hopen : (p.manager m).isOpen
  · simp [Step.runFrom_bind, hm, enlist, hopen]
  · simp [Step.runFrom_bind, hm, enlist, hopen, Pool.bound]

theorem array_copied_next {p : Pool} {device : Device} {t : Contents} :
    (p.copied device t).array p.nextArray =
      ⟨device.or .cpu, none, some ⟨p.nextBuffer, t.shape,
        some ⟨p.arrays.size + 1⟩⟩⟩ := by
  have hnext : (p.addOwning (device.or .cpu) ⟨t, .rowMajor⟩ t.shape).2.Has p.nextArray :=
    has_of_holding holding_addOwning_next
  rw [copied, array_tracked_self hnext, array_addOwning_next]
  simp [nextArray, arrays_size_addOwning]

/-- A copy of an array on a device, bound to a manager. -/
def boundCopy (a : ArrayId) (device : Device) (m : ManagerId) : Step Pool ArrayId := do
  let copy ← toDevice a device true
  attach copy m
  return copy

/-- What comes of a copy: the array is closed, or the manager is and the copy
stays unbound, or there is a bound copy. -/
theorem runFrom_boundCopy (p : Pool) (a : ArrayId) (device : Device) (m : ManagerId) :
    (boundCopy a device m).runFrom p =
      match p.items? a with
      | none => (.error .arrayClosed, p)
      | some t =>
        if (p.manager m).isOpen then
          (.ok p.nextArray, (p.copied device t).bound p.nextArray m)
        else (.error .managerClosed, p.copied device t) := by
  rcases ht : p.items? a with _ | t
  · rw [boundCopy, Step.runFrom_bind_of_error (runFrom_toDevice_closed ht)]
  · rw [boundCopy, Step.runFrom_bind_of_ok (runFrom_toDevice ht)]
    have hattach := runFrom_attach_unbound (p := p.copied device t) (a := p.nextArray) (m := m)
      (by rw [array_copied_next]) (by rw [array_copied_next])
    have hopen : ((p.copied device t).manager m).isOpen = (p.manager m).isOpen := rfl
    rw [hopen] at hattach
    by_cases hm : (p.manager m).isOpen
    · rw [if_pos hm] at hattach
      rw [Step.runFrom_bind_of_ok hattach]
      simp only [hm, ↓reduceIte, Step.runFrom_pure]
    · rw [if_neg hm] at hattach
      rw [Step.runFrom_bind_of_error hattach]
      simp only [hm, Bool.false_eq_true, ↓reduceIte]

theorem extends_boundCopy (p : Pool) (a : ArrayId) (device : Device) (m : ManagerId) :
    p.Extends ((boundCopy a device m).runFrom p).2 := by
  have hnew : ¬p.Has p.nextArray := Nat.lt_irrefl _
  rw [runFrom_boundCopy]
  rcases p.items? a with _ | t
  · exact Extends.refl p
  · dsimp only
    split
    · exact extends_copied.bound hnew m
    · exact extends_copied

theorem isCopy_of_boundCopy {p : Pool} (hp : p.Sound) {a c : ArrayId} {device : Device}
    {m : ManagerId} (hc : ((boundCopy a device m).runFrom p).1 = .ok c) :
    ∃ t, p.items? a = some t ∧
      IsCopy p ((boundCopy a device m).runFrom p).2 device t c := by
  rw [runFrom_boundCopy] at hc ⊢
  rcases ht : p.items? a with _ | t
  · rw [ht] at hc
    cases hc
  · rw [ht] at hc
    by_cases hm : (p.manager m).isOpen
    · simp only [hm, ↓reduceIte] at hc ⊢
      rw [← Except.ok.inj hc]
      exact ⟨t, rfl, (isCopy_copied hp).bound m⟩
    · simp only [hm, Bool.false_eq_true, ↓reduceIte] at hc
      cases hc

theorem boundCopy_open {p : Pool} {a : ArrayId} (device : Device) {m : ManagerId} {t : Contents}
    (ht : p.items? a = some t) (hm : (p.manager m).isOpen) :
    (boundCopy a device m).runFrom p =
      (.ok p.nextArray, (p.copied device t).bound p.nextArray m) := by
  rw [runFrom_boundCopy, ht]
  simp only [hm, ↓reduceIte]

theorem isOpen_bound_copied {p : Pool} {device : Device} {t : Contents} {c : ArrayId}
    {m : ManagerId} (n : ManagerId) :
    (((p.copied device t).bound c m).manager n).isOpen = (p.manager n).isOpen := by
  rw [Pool.bound, manager_updateArray, manager_updateManager]
  split
  · rfl
  · rfl

end Pool

end DataParallel

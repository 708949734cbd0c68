import DataParallel.Proofs.Pool.Lookup

/-!
# Sound pools and how they change

A pool is sound if open arrays refer to buffers that exist and that hold what
their shapes ask for, and if every gradient belongs to one array, is younger
than it, looks like it and shares its buffer with no older array.

Two relations say how pools change.  A pool `Extends` another one if all that
was there is as it was.  It has `Evolved` from it if arrays keep their device,
their shape and their buffer for as long as they are open; contents and
managers may be others, and gradients may be new.  Whatever is done with arrays and managers lets
the pool evolve.
-/

namespace DataParallel

namespace Pool

/-- No older array shares the buffer of this one. -/
def Original (p : Pool) (c : ArrayId) : Prop :=
  ∀ x hx hc, x.index < c.index → (p.array x).holding = some hx →
    (p.array c).holding = some hc → hx.buffer ≠ hc.buffer

/-- The array is no gradient. -/
def Lone (p : Pool) (c : ArrayId) : Prop := ∀ x, p.gradient? x ≠ some c

/-- What holds of every pool that the operations of the library lead to. -/
structure Sound (p : Pool) : Prop where
  buffer_lt : ∀ {a h}, (p.array a).holding = some h →
    h.buffer.index < p.buffers.size
  size_eq : ∀ {a h}, (p.array a).holding = some h →
    (p.buffer h.buffer).contents.size = h.shape.size
  gradient_lt : ∀ {a h g}, (p.array a).holding = some h →
    h.gradient = some g → a.index < g.index ∧ p.Has g
  gradient_original : ∀ {a h g}, (p.array a).holding = some h →
    h.gradient = some g → p.Original g
  gradient_inj : ∀ {a b ha hb g}, (p.array a).holding = some ha →
    (p.array b).holding = some hb → ha.gradient = some g →
    hb.gradient = some g → a = b
  gradient_like : ∀ {a h g hg}, (p.array a).holding = some h →
    h.gradient = some g → (p.array g).holding = some hg →
    hg.shape = h.shape ∧
      (p.buffer hg.buffer).contents.itemType = (p.buffer h.buffer).contents.itemType

/-- Arrays and buffers were added, and nothing else happened to them. -/
structure Extends (p q : Pool) : Prop where
  arrays_le : p.arrays.size ≤ q.arrays.size
  buffers_le : p.buffers.size ≤ q.buffers.size
  array : ∀ {a}, p.Has a → q.array a = p.array a
  buffer : ∀ {b : BufferId}, b.index < p.buffers.size → q.buffer b = p.buffer b
  sound : p.Sound → q.Sound

/-- Arrays keep their device, their shape and their buffer until they are
closed, their gradients are the ones they had or new ones, and buffers keep
the type of their items. -/
structure Evolves (p q : Pool) : Prop where
  arrays_le : p.arrays.size ≤ q.arrays.size
  buffers_le : p.buffers.size ≤ q.buffers.size
  device : ∀ {a}, p.Has a → (q.array a).device = (p.array a).device
  holding : ∀ {a k}, p.Has a → (q.array a).holding = some k →
    ∃ h, (p.array a).holding = some h ∧ k.buffer = h.buffer ∧ k.shape = h.shape
  gradient : ∀ {a g}, p.Has a → p.Has g → q.gradient? a = some g →
    p.gradient? a = some g
  itemType : ∀ {b : BufferId}, b.index < p.buffers.size →
    (q.buffer b).contents.itemType = (p.buffer b).contents.itemType
  sound : p.Sound → q.Sound

/-! ## Orders -/

theorem Extends.refl (p : Pool) : p.Extends p :=
  ⟨Nat.le_refl _, Nat.le_refl _, fun _ => rfl, fun _ => rfl, id⟩

theorem Extends.trans {p q r : Pool} (hpq : p.Extends q) (hqr : q.Extends r) :
    p.Extends r where
  arrays_le := Nat.le_trans hpq.arrays_le hqr.arrays_le
  buffers_le := Nat.le_trans hpq.buffers_le hqr.buffers_le
  array ha := (hqr.array (Nat.lt_of_lt_of_le ha hpq.arrays_le)).trans (hpq.array ha)
  buffer hb := (hqr.buffer (Nat.lt_of_lt_of_le hb hpq.buffers_le)).trans (hpq.buffer hb)
  sound h := hqr.sound (hpq.sound h)

theorem Extends.evolves {p q : Pool} (h : p.Extends q) : p.Evolves q where
  arrays_le := h.arrays_le
  buffers_le := h.buffers_le
  device ha := by rw [h.array ha]
  holding ha hk := ⟨_, by rw [← h.array ha, hk], rfl, rfl⟩
  gradient ha _ hg := by rwa [gradient?, ← h.array ha]
  itemType hb := by rw [h.buffer hb]
  sound := h.sound

theorem Evolves.refl (p : Pool) : p.Evolves p := (Extends.refl p).evolves

theorem Evolves.has {p q : Pool} (h : p.Evolves q) {a : ArrayId} (ha : p.Has a) :
    q.Has a :=
  Nat.lt_of_lt_of_le ha h.arrays_le

theorem Extends.has {p q : Pool} (h : p.Extends q) {a : ArrayId} (ha : p.Has a) :
    q.Has a :=
  h.evolves.has ha

theorem Evolves.trans {p q r : Pool} (hpq : p.Evolves q) (hqr : q.Evolves r) :
    p.Evolves r where
  arrays_le := Nat.le_trans hpq.arrays_le hqr.arrays_le
  buffers_le := Nat.le_trans hpq.buffers_le hqr.buffers_le
  device ha := (hqr.device (hpq.has ha)).trans (hpq.device ha)
  holding := by
    intro a k ha hk
    obtain ⟨j, hj, hbuffer, hshape⟩ := hqr.holding (hpq.has ha) hk
    obtain ⟨h, hh, hbuffer', hshape'⟩ := hpq.holding ha hj
    exact ⟨h, hh, hbuffer.trans hbuffer', hshape.trans hshape'⟩
  gradient ha hg hag :=
    hpq.gradient ha hg (hqr.gradient (hpq.has ha) (hpq.has hg) hag)
  itemType hb :=
    (hqr.itemType (Nat.lt_of_lt_of_le hb hpq.buffers_le)).trans (hpq.itemType hb)
  sound h := hqr.sound (hpq.sound h)

/-- An array that shares its buffer with no older one never will. -/
theorem Original.evolves {p q : Pool} {c : ArrayId} (hc : p.Original c)
    (has : p.Has c) (h : p.Evolves q) : q.Original c := by
  intro x hx hold hlt held held'
  have hasx : p.Has x := Nat.lt_trans hlt has
  obtain ⟨k, hk, hkbuffer, -⟩ := h.holding hasx held
  obtain ⟨j, hj, hjbuffer, -⟩ := h.holding has held'
  rw [hkbuffer, hjbuffer]
  exact hc x k j hlt hk hj

theorem Lone.evolves {p q : Pool} {c : ArrayId} (hc : p.Lone c) (hp : p.Sound)
    (has : p.Has c) (h : p.Evolves q) : q.Lone c := by
  intro x hx
  obtain ⟨k, hk, hkc⟩ := gradient?_eq_some.mp hx
  have hlt := ((h.sound hp).gradient_lt hk hkc).1
  exact hc x (h.gradient (Nat.lt_trans hlt has) has hx)

/-! ## The pool without arrays -/

theorem sound_empty : empty.Sound := by
  have hnone : ∀ {a h}, (empty.array a).holding ≠ some h := by
    intro a h hh
    cases hh
  constructor
  · exact fun hh => absurd hh hnone
  · exact fun hh => absurd hh hnone
  · exact fun hh => absurd hh hnone
  · exact fun hh => absurd hh hnone
  · exact fun hh => absurd hh hnone
  · exact fun hh => absurd hh hnone

end Pool

end DataParallel

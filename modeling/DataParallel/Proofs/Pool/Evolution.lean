import DataParallel.Pool.Manager
import DataParallel.Pool.Literal
import DataParallel.Proofs.Pool.Sound
import DataParallel.Proofs.Step.Along
import DataParallel.Proofs.Tensor.Contents

/-!
# Operations let pools evolve

Reading leaves a pool alone, making arrays extends it, and writing, tracking,
binding and closing let it evolve.  Each statement is about every run of the
operation, also one that fails halfway.
-/

namespace DataParallel

namespace Pool

instance : IsPreorder Pool Evolves where
  refl := Evolves.refl
  trans _ _ _ := Evolves.trans

/-! ## Elementary changes -/

/-- Closing arrays and writing into buffers keep a pool sound. -/
theorem Sound.of_fewer_holdings {p q : Pool} (hp : p.Sound)
    (harrays : p.arrays.size ≤ q.arrays.size)
    (hbuffers : p.buffers.size ≤ q.buffers.size)
    (hholding : ∀ {a h}, (q.array a).holding = some h → (p.array a).holding = some h)
    (hcontents : ∀ {b : BufferId}, b.index < p.buffers.size →
      (q.buffer b).contents.itemType = (p.buffer b).contents.itemType ∧
        (q.buffer b).contents.size = (p.buffer b).contents.size) :
    q.Sound where
  buffer_lt hh := Nat.lt_of_lt_of_le (hp.buffer_lt (hholding hh)) hbuffers
  size_eq hh :=
    (hcontents (hp.buffer_lt (hholding hh))).2.trans (hp.size_eq (hholding hh))
  gradient_lt hh hg :=
    have hlt := hp.gradient_lt (hholding hh) hg
    ⟨hlt.1, Nat.lt_of_lt_of_le hlt.2 harrays⟩
  gradient_original hh hg := by
    intro x hx hc hlt held held'
    exact hp.gradient_original (hholding hh) hg x hx hc hlt
      (hholding held) (hholding held')
  gradient_inj ha hb := hp.gradient_inj (hholding ha) (hholding hb)
  gradient_like hh hg held := by
    have hlike := hp.gradient_like (hholding hh) hg (hholding held)
    refine ⟨hlike.1, ?_⟩
    rw [(hcontents (hp.buffer_lt (hholding held))).1,
      (hcontents (hp.buffer_lt (hholding hh))).1]
    exact hlike.2

theorem extends_updateManager (p : Pool) (m : ManagerId) (f : ManagerState → ManagerState) :
    p.Extends (p.updateManager m f) where
  arrays_le := Nat.le_refl _
  buffers_le := Nat.le_refl _
  array _ := rfl
  buffer _ := rfl
  sound hp := hp.of_fewer_holdings (Nat.le_refl _) (Nat.le_refl _) id fun _ => ⟨rfl, rfl⟩

/-- A change of an array that leaves its device alone and at most closes it. -/
theorem evolves_updateArray (p : Pool) (a : ArrayId) {f : ArrayState → ArrayState}
    (hdevice : ∀ s, (f s).device = s.device)
    (hholding : ∀ s, (f s).holding = s.holding ∨ (f s).holding = none) :
    p.Evolves (p.updateArray a f) := by
  have hfewer : ∀ {b h}, ((p.updateArray a f).array b).holding = some h →
      (p.array b).holding = some h := by
    intro b h hh
    rw [array_updateArray] at hh
    split at hh
    · rcases hholding (p.array b) with hsame | hnone
      · rwa [hsame] at hh
      · rw [hnone] at hh
        cases hh
    · exact hh
  constructor
  · simp
  · exact Nat.le_refl _
  · intro b _
    rw [array_updateArray]
    split
    · exact hdevice _
    · rfl
  · intro b k _ hk
    exact ⟨k, hfewer hk, rfl, rfl⟩
  · intro b g _ _ hg
    obtain ⟨k, hk, hkg⟩ := gradient?_eq_some.mp hg
    exact gradient?_eq_some.mpr ⟨k, hfewer hk, hkg⟩
  · intro b _
    rfl
  · intro hp
    exact hp.of_fewer_holdings (by simp) (Nat.le_refl _) hfewer fun _ => ⟨rfl, rfl⟩

/-- A change of the contents of a buffer that keeps their type and, in a sound
pool, their number. -/
theorem evolves_updateBuffer (p : Pool) (b : BufferId) {f : Buffer → Buffer}
    (htype : (f (p.buffer b)).contents.itemType = (p.buffer b).contents.itemType)
    (hsize : p.Sound → (f (p.buffer b)).contents.size = (p.buffer b).contents.size) :
    p.Evolves (p.updateBuffer b f) := by
  have hsame : ∀ {c : BufferId},
      ((p.updateBuffer b f).buffer c).contents.itemType = (p.buffer c).contents.itemType := by
    intro c
    rw [buffer_updateBuffer]
    split
    · next hc =>
      rw [← hc.1]
      exact htype
    · rfl
  have hcount : p.Sound → ∀ {c : BufferId},
      ((p.updateBuffer b f).buffer c).contents.size = (p.buffer c).contents.size := by
    intro hp c
    rw [buffer_updateBuffer]
    split
    · next hc =>
      rw [← hc.1]
      exact hsize hp
    · rfl
  constructor
  · exact Nat.le_refl _
  · simp
  · intro a _
    rfl
  · intro a k _ hk
    exact ⟨k, hk, rfl, rfl⟩
  · intro a g _ _ hg
    exact hg
  · intro c _
    exact hsame
  · intro hp
    exact hp.of_fewer_holdings (Nat.le_refl _) (by simp) id fun _ => ⟨hsame, hcount hp⟩

theorem original_nextArray {p q : Pool} (hp : p.Sound)
    (hold : ∀ x, x.index < p.arrays.size → q.array x = p.array x)
    (hnew : ∀ h, (q.array p.nextArray).holding = some h → h.buffer = p.nextBuffer) :
    q.Original p.nextArray := by
  intro x hx hc hlt held held' heq
  rw [hold x hlt] at held
  have hbound := hp.buffer_lt held
  rw [heq, hnew hc held'] at hbound
  exact Nat.lt_irrefl _ hbound

/-! ## New arrays and buffers -/

theorem extends_addBuffer (p : Pool) (b : Buffer) : p.Extends (p.addBuffer b).2 := by
  have hbuffer : ∀ {c : BufferId}, c.index < p.buffers.size →
      (p.addBuffer b).2.buffer c = p.buffer c := by
    intro c hc
    rw [buffer_addBuffer, if_neg]
    rintro rfl
    exact Nat.lt_irrefl _ hc
  constructor
  · exact Nat.le_refl _
  · simp [buffers_size_addBuffer]
  · intro a _
    rfl
  · exact hbuffer
  · intro hp
    have hle : p.buffers.size ≤ (p.addBuffer b).2.buffers.size := by
      simp [buffers_size_addBuffer]
    refine hp.of_fewer_holdings (Nat.le_refl _) hle id fun hc => ?_
    rw [hbuffer hc]
    exact ⟨rfl, rfl⟩

/-- The state of an array without a gradient whose buffer is there. -/
def Fits (p : Pool) (s : ArrayState) : Prop :=
  ∀ h, s.holding = some h → h.gradient = none ∧ h.buffer.index < p.buffers.size ∧
    (p.buffer h.buffer).contents.size = h.shape.size

theorem array_addArray_of_has {p : Pool} {s : ArrayState} {a : ArrayId} (ha : p.Has a) :
    (p.addArray s).2.array a = p.array a := by
  rw [array_addArray, if_neg]
  rintro rfl
  exact Nat.lt_irrefl _ ha

/-- The arrays after one was added are those before and the new one. -/
theorem holding_addArray {p : Pool} {s : ArrayState} {a : ArrayId} {h : Holding}
    (hh : ((p.addArray s).2.array a).holding = some h) :
    (p.array a).holding = some h ∨ (a = p.nextArray ∧ s.holding = some h) := by
  rw [array_addArray] at hh
  split at hh
  · next ha =>
    exact Or.inr ⟨ha, hh⟩
  · exact Or.inl hh

theorem Sound.addArray {p : Pool} (hp : p.Sound) {s : ArrayState} (hs : p.Fits s) :
    (p.addArray s).2.Sound := by
  have hold : ∀ {a h g}, ((p.addArray s).2.array a).holding = some h →
      h.gradient = some g → (p.array a).holding = some h := by
    intro a h g hh hg
    rcases holding_addArray hh with hh | ⟨-, hh⟩
    · exact hh
    · rw [(hs h hh).1] at hg
      cases hg
  constructor
  · intro a h hh
    rcases holding_addArray hh with hh | ⟨-, hh⟩
    · exact hp.buffer_lt hh
    · exact (hs h hh).2.1
  · intro a h hh
    rcases holding_addArray hh with hh | ⟨-, hh⟩
    · exact hp.size_eq hh
    · exact (hs h hh).2.2
  · intro a h g hh hg
    have hbound := hp.gradient_lt (hold hh hg) hg
    refine ⟨hbound.1, ?_⟩
    rw [Has, arrays_size_addArray]
    exact Nat.lt_succ_of_lt hbound.2
  · intro a h g hh hg x hx hc hxg held held'
    have hbound := hp.gradient_lt (hold hh hg) hg
    have hasx : p.Has x := Nat.lt_trans hxg hbound.2
    rw [array_addArray_of_has hasx] at held
    rw [array_addArray_of_has hbound.2] at held'
    exact hp.gradient_original (hold hh hg) hg x hx hc hxg held held'
  · intro a c ha hc g hha hhc hga hgc
    exact hp.gradient_inj (hold hha hga) (hold hhc hgc) hga hgc
  · intro a h g hg hh hgradient held
    have hbound := hp.gradient_lt (hold hh hgradient) hgradient
    rw [array_addArray_of_has hbound.2] at held
    exact hp.gradient_like (hold hh hgradient) hgradient held

theorem extends_addArray {p : Pool} {s : ArrayState} (hs : p.Sound → p.Fits s) :
    p.Extends (p.addArray s).2 where
  arrays_le := by simp [arrays_size_addArray]
  buffers_le := Nat.le_refl _
  array := array_addArray_of_has
  buffer _ := rfl
  sound hp := hp.addArray (hs hp)

section Adding

variable {p : Pool} {device : Device} {b : Buffer} {shape : Shape}

theorem array_addOwning_next :
    (p.addOwning device b shape).2.array p.nextArray =
      ⟨device, none, some ⟨p.nextBuffer, shape, none⟩⟩ := by
  rw [array_addOwning, if_pos rfl]

theorem buffer_addOwning_next :
    (p.addOwning device b shape).2.buffer p.nextBuffer = b := by
  rw [buffer_addOwning, if_pos rfl]

theorem extends_addOwning (hsize : b.contents.size = shape.size) :
    p.Extends (p.addOwning device b shape).2 := by
  rw [addOwning_snd]
  refine (extends_addBuffer p b).trans (extends_addArray ?_)
  intro _ h hh
  rw [← Option.some.inj hh]
  refine ⟨rfl, ?_, ?_⟩
  · rw [buffers_size_addBuffer]
    exact Nat.lt_succ_self _
  · rw [buffer_addBuffer, if_pos rfl]
    exact hsize

theorem array_addOwning_of_has {a : ArrayId} (ha : p.Has a) :
    (p.addOwning device b shape).2.array a = p.array a :=
  array_addArray_of_has ha

theorem has_addOwning {a : ArrayId} (ha : p.Has a) :
    (p.addOwning device b shape).2.Has a := by
  rw [Has, arrays_size_addOwning]
  exact Nat.lt_succ_of_lt ha

theorem buffer_addOwning_of_lt {c : BufferId} (hc : c.index < p.buffers.size) :
    (p.addOwning device b shape).2.buffer c = p.buffer c :=
  (extends_addBuffer p b).buffer hc

theorem lone_addOwning_next (hp : p.Sound) :
    (p.addOwning device b shape).2.Lone p.nextArray := by
  intro x hx
  obtain ⟨k, hk, hkg⟩ := gradient?_eq_some.mp hx
  rcases holding_addArray hk with hk | ⟨-, hk⟩
  · exact absurd (hp.gradient_lt hk hkg).2 (Nat.lt_irrefl _)
  · rw [← Option.some.inj hk] at hkg
    cases hkg

end Adding

/-! ## New gradients -/

/-- The pool after an array was given a new gradient of zeros. -/
def tracked (p : Pool) (a : ArrayId) (h : Holding) : Pool :=
  let source := p.buffer h.buffer
  (p.addOwning (p.array a).device ⟨source.contents.zeros, source.order.fresh⟩ h.shape).2.updateArray
    a fun s => { s with holding := some { h with gradient := some p.nextArray } }

theorem runFrom_held {p : Pool} {a : ArrayId} {h : Holding}
    (hh : (p.array a).holding = some h) :
    (held a).runFrom p = (.ok h, p) := by
  simp [held, Step.runFrom_bind, hh]

theorem runFrom_held_closed {p : Pool} {a : ArrayId}
    (hh : (p.array a).holding = none) :
    (held a).runFrom p = (.error .arrayClosed, p) := by
  simp [held, Step.runFrom_bind, hh]

theorem runFrom_attachGradient {p : Pool} {a : ArrayId} {h : Holding}
    (hh : (p.array a).holding = some h) :
    (attachGradient a).runFrom p = (.ok (), p.tracked a h) := by
  rw [attachGradient, Step.runFrom_bind_of_ok (runFrom_held hh)]
  rfl

section Tracking

variable {p : Pool} {a : ArrayId} {h : Holding}

theorem arrays_size_tracked :
    (p.tracked a h).arrays.size = p.arrays.size + 1 := by
  simp [tracked, arrays_size_addOwning]

theorem buffers_size_tracked :
    (p.tracked a h).buffers.size = p.buffers.size + 1 := by
  simp [tracked, buffers_size_addOwning]

theorem array_tracked_self (ha : p.Has a) :
    (p.tracked a h).array a =
      { p.array a with holding := some { h with gradient := some p.nextArray } } := by
  rw [tracked, array_updateArray, if_pos ⟨rfl, has_addOwning ha⟩,
    array_addOwning_of_has ha]

theorem array_tracked_next (ha : p.Has a) :
    (p.tracked a h).array p.nextArray =
      ⟨(p.array a).device, none, some ⟨p.nextBuffer, h.shape, none⟩⟩ := by
  rw [tracked, array_updateArray, if_neg, array_addOwning_next]
  rintro ⟨rfl, -⟩
  exact Nat.lt_irrefl _ ha

theorem array_tracked_of_ne {x : ArrayId} (hx : p.Has x) (hne : x ≠ a) :
    (p.tracked a h).array x = p.array x := by
  rw [tracked, array_updateArray, if_neg, array_addOwning_of_has hx]
  rintro ⟨rfl, -⟩
  exact hne rfl

theorem buffer_tracked_of_lt {c : BufferId} (hc : c.index < p.buffers.size) :
    (p.tracked a h).buffer c = p.buffer c := by
  rw [tracked, buffer_updateArray, buffer_addOwning_of_lt hc]

theorem contents_tracked_next :
    ((p.tracked a h).buffer p.nextBuffer).contents = (p.buffer h.buffer).contents.zeros := by
  rw [tracked]
  simp only [buffer_updateArray]
  rw [buffer_addOwning_next]

/-- The holdings after an array got a new gradient: the array holds what it
held and the gradient, the gradient a buffer of its own, and all others hold
what they held. -/
theorem holding_tracked (hh : (p.array a).holding = some h) {x : ArrayId} {k : Holding}
    (hk : ((p.tracked a h).array x).holding = some k) :
    (x = a ∧ k = { h with gradient := some p.nextArray }) ∨
      (x = p.nextArray ∧ k = ⟨p.nextBuffer, h.shape, none⟩) ∨
      (x ≠ a ∧ p.Has x ∧ (p.array x).holding = some k) := by
  have ha := has_of_holding hh
  by_cases hxa : x = a
  · subst hxa
    rw [array_tracked_self ha] at hk
    exact Or.inl ⟨rfl, (Option.some.inj hk).symm⟩
  · by_cases hx : p.Has x
    · rw [array_tracked_of_ne hx hxa] at hk
      exact Or.inr (Or.inr ⟨hxa, hx, hk⟩)
    · have hbound := has_of_holding hk
      rw [Has, arrays_size_tracked] at hbound
      have hnext : x = p.nextArray := by
        rcases x with ⟨i⟩
        simp only [Has] at hx
        simp only [nextArray, ArrayId.mk.injEq]
        simp only at hbound
        omega
      subst hnext
      rw [array_tracked_next ha] at hk
      exact Or.inr (Or.inl ⟨rfl, (Option.some.inj hk).symm⟩)

theorem original_tracked_next (hp : p.Sound) (hh : (p.array a).holding = some h) :
    (p.tracked a h).Original p.nextArray := by
  have ha := has_of_holding hh
  intro x hx hc hlt held held' heq
  rw [array_tracked_next ha] at held'
  rw [← Option.some.inj held'] at heq
  have hbound : hx.buffer.index < p.buffers.size := by
    rcases holding_tracked hh held with ⟨-, rfl⟩ | ⟨rfl, -⟩ | ⟨-, -, hold⟩
    · exact hp.buffer_lt (h := h) hh
    · exact absurd hlt (Nat.lt_irrefl _)
    · exact hp.buffer_lt hold
  rw [heq] at hbound
  exact Nat.lt_irrefl _ hbound

theorem evolves_tracked_holding (hh : (p.array a).holding = some h) {x : ArrayId} {k : Holding}
    (hx : p.Has x) (hk : ((p.tracked a h).array x).holding = some k) :
    ∃ j, (p.array x).holding = some j ∧ k.buffer = j.buffer ∧ k.shape = j.shape ∧
      (k.gradient = some p.nextArray ∧ x = a ∨ k.gradient = j.gradient ∧ x ≠ a) := by
  rcases holding_tracked hh hk with ⟨rfl, rfl⟩ | ⟨rfl, -⟩ | ⟨hne, -, hold⟩
  · exact ⟨h, hh, rfl, rfl, Or.inl ⟨rfl, rfl⟩⟩
  · exact absurd hx (Nat.lt_irrefl _)
  · exact ⟨k, hold, rfl, rfl, Or.inr ⟨rfl, hne⟩⟩

theorem Sound.tracked (hp : p.Sound) (hh : (p.array a).holding = some h) :
    (p.tracked a h).Sound := by
  have ha := has_of_holding hh
  have hnext : (p.tracked a h).Has p.nextArray := by
    rw [Has, arrays_size_tracked]
    exact Nat.lt_succ_self _
  -- An old gradient stays where it was, because it is older than the new one.
  have hold : ∀ {x k g}, x ≠ a → (p.array x).holding = some k → k.gradient = some g →
      p.Has g := fun _ hk hg => (hp.gradient_lt hk hg).2
  constructor
  · intro x k hk
    rw [buffers_size_tracked]
    rcases holding_tracked hh hk with ⟨-, rfl⟩ | ⟨-, rfl⟩ | ⟨-, -, hk⟩
    · exact Nat.lt_succ_of_lt (hp.buffer_lt (h := h) hh)
    · exact Nat.lt_succ_self _
    · exact Nat.lt_succ_of_lt (hp.buffer_lt hk)
  · intro x k hk
    rcases holding_tracked hh hk with ⟨-, rfl⟩ | ⟨-, rfl⟩ | ⟨-, -, hk⟩
    · rw [buffer_tracked_of_lt (hp.buffer_lt (h := h) hh)]
      exact hp.size_eq hh
    · rw [contents_tracked_next, Contents.size, Contents.shape_zeros]
      exact hp.size_eq hh
    · rw [buffer_tracked_of_lt (hp.buffer_lt hk)]
      exact hp.size_eq hk
  · intro x k g hk hg
    rcases holding_tracked hh hk with ⟨rfl, rfl⟩ | ⟨-, rfl⟩ | ⟨-, -, hk⟩
    · rw [← Option.some.inj hg]
      exact ⟨ha, hnext⟩
    · cases hg
    · have hbound := hp.gradient_lt hk hg
      refine ⟨hbound.1, ?_⟩
      rw [Has, arrays_size_tracked]
      exact Nat.lt_succ_of_lt hbound.2
  · intro x k g hk hg
    rcases holding_tracked hh hk with ⟨-, rfl⟩ | ⟨-, rfl⟩ | ⟨-, -, hk⟩
    · rw [← Option.some.inj hg]
      exact original_tracked_next hp hh
    · cases hg
    · have hbound := (hp.gradient_lt hk hg).2
      intro y hy hc hlt held held'
      obtain ⟨j, hj, hbuffer, -⟩ := evolves_tracked_holding hh (Nat.lt_trans hlt hbound) held
      obtain ⟨i, hi, hbuffer', -⟩ := evolves_tracked_holding hh hbound held'
      rw [hbuffer, hbuffer']
      exact hp.gradient_original hk hg y j i hlt hj hi
  · intro x y hx hy g heldx heldy hgx hgy
    rcases holding_tracked hh heldx with ⟨rfl, rfl⟩ | ⟨-, rfl⟩ | ⟨hxa, -, holdx⟩
    · rcases holding_tracked hh heldy with ⟨rfl, -⟩ | ⟨-, rfl⟩ | ⟨hya, -, holdy⟩
      · rfl
      · cases hgy
      · have hbound := hold hya holdy hgy
        rw [← Option.some.inj hgx] at hbound
        exact absurd hbound (Nat.lt_irrefl _)
    · cases hgx
    · rcases holding_tracked hh heldy with ⟨rfl, rfl⟩ | ⟨-, rfl⟩ | ⟨-, -, holdy⟩
      · have hbound := hold hxa holdx hgx
        rw [← Option.some.inj hgy] at hbound
        exact absurd hbound (Nat.lt_irrefl _)
      · cases hgy
      · exact hp.gradient_inj holdx holdy hgx hgy
  · intro x k g hg hk hgradient held
    rcases holding_tracked hh hk with ⟨-, rfl⟩ | ⟨-, rfl⟩ | ⟨hxa, -, hk⟩
    · rw [← Option.some.inj hgradient, array_tracked_next ha] at held
      rw [← Option.some.inj held]
      refine ⟨rfl, ?_⟩
      rw [contents_tracked_next, buffer_tracked_of_lt (hp.buffer_lt (h := h) hh),
        Contents.itemType_zeros]
    · cases hgradient
    · have hbound := hold hxa hk hgradient
      obtain ⟨j, hj, hbuffer, hshape, -⟩ := evolves_tracked_holding hh hbound held
      have hlike := hp.gradient_like hk hgradient hj
      rw [hbuffer, hshape, buffer_tracked_of_lt (hp.buffer_lt hj),
        buffer_tracked_of_lt (hp.buffer_lt hk)]
      exact hlike

theorem evolves_tracked (hh : (p.array a).holding = some h) :
    p.Evolves (p.tracked a h) where
  arrays_le := by simp [arrays_size_tracked]
  buffers_le := by simp [buffers_size_tracked]
  device := by
    intro x hx
    by_cases hxa : x = a
    · rw [hxa, array_tracked_self (has_of_holding hh)]
    · rw [array_tracked_of_ne hx hxa]
  holding := by
    intro x k hx hk
    obtain ⟨j, hj, hbuffer, hshape, -⟩ := evolves_tracked_holding hh hx hk
    exact ⟨j, hj, hbuffer, hshape⟩
  gradient := by
    intro x g hx hg hxg
    obtain ⟨k, hk, hkg⟩ := gradient?_eq_some.mp hxg
    obtain ⟨j, hj, -, -, ⟨hnew, -⟩ | ⟨hsame, -⟩⟩ := evolves_tracked_holding hh hx hk
    · rw [hkg] at hnew
      rw [Option.some.inj hnew] at hg
      exact absurd hg (Nat.lt_irrefl _)
    · exact gradient?_eq_some.mpr ⟨j, hj, hsame.symm.trans hkg⟩
  itemType hb := by rw [buffer_tracked_of_lt hb]
  sound hp := hp.tracked hh

end Tracking

end Pool

end DataParallel

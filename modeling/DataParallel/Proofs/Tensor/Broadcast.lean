import DataParallel.Tensor.Literal

/-!
# Shapes of calculated tensors

Two tensors are combined in the shape to which both can be stretched.  A tensor that can be
stretched within a shape leaves it when it is combined with a tensor of this shape; combining,
scaling and clipping such tensors gives such tensors again.  A plain number stretches nothing.
-/

namespace DataParallel

namespace Shape

/-! ## Dimensions from the last to the first -/

theorem alignReversed_cons {a b : Nat} {as bs ds : List Nat}
    (h : alignReversed (a :: as) (b :: bs) = some ds) :
    ∃ d rest, ds = d :: rest ∧ (d = a ∨ d = b) ∧ alignReversed as bs = some rest := by
  obtain ⟨rest, hrest, h⟩ := Option.bind_eq_some_iff.mp h
  split at h
  · exact ⟨a, rest, (Option.some.inj h).symm, Or.inl rfl, hrest⟩
  · split at h
    · exact ⟨b, rest, (Option.some.inj h).symm, Or.inr rfl, hrest⟩
    · split at h
      · exact ⟨a, rest, (Option.some.inj h).symm, Or.inl rfl, hrest⟩
      · cases h

/-- Nothing is stretched if every dimension is the one that is there already, or one. -/
theorem alignReversed_cons_self {a b : Nat} {as bs : List Nat} :
    alignReversed (a :: as) (b :: bs) = some (a :: as) ↔
      (b = a ∨ b = 1) ∧ alignReversed as bs = some as := by
  rw [alignReversed]
  rcases alignReversed as bs with _ | rest
  · simp
  · by_cases hab : a = b
    · simp [hab]
    · by_cases ha : a = 1
      · subst ha
        simp [hab, Ne.symm hab]
      · simp [hab, ha, Ne.symm hab]

/-- What is put together of two shapes within another one is within it. -/
theorem alignReversed_within {ss as bs ds : List Nat} (ha : alignReversed ss as = some ss)
    (hb : alignReversed ss bs = some ss) (hd : alignReversed as bs = some ds) :
    alignReversed ss ds = some ss := by
  induction ss generalizing as bs ds with
  | nil =>
    obtain rfl : as = [] := Option.some.inj ha
    obtain rfl : bs = ds := Option.some.inj hd
    exact hb
  | cons s ss ih =>
    rcases as with _ | ⟨a, as⟩
    · obtain rfl : bs = ds := Option.some.inj hd
      exact hb
    · rcases bs with _ | ⟨b, bs⟩
      · obtain rfl : a :: as = ds := Option.some.inj hd
        exact ha
      · obtain ⟨d, rest, rfl, hd, hrest⟩ := alignReversed_cons hd
        obtain ⟨ha, has⟩ := alignReversed_cons_self.mp ha
        obtain ⟨hb, hbs⟩ := alignReversed_cons_self.mp hb
        apply alignReversed_cons_self.mpr
        constructor
        · rcases hd with rfl | rfl
          · exact ha
          · exact hb
        · exact ih has hbs hrest

/-! ## Shapes within a shape -/

/-- A tensor of this shape can be stretched to the other one. -/
def Within (g s : Shape) : Prop := broadcast? s g = some s

instance (g s : Shape) : Decidable (Within g s) :=
  inferInstanceAs (Decidable (broadcast? s g = some s))

theorem within_iff {g s : Shape} :
    Within g s ↔ alignReversed s.reverse g.reverse = some s.reverse := by
  rw [Within, broadcast?, Option.map_eq_some_iff]
  constructor
  · rintro ⟨ds, hds, hs⟩
    rw [hds, ← hs, List.reverse_reverse]
  · intro h
    exact ⟨s.reverse, h, List.reverse_reverse s⟩

theorem Within.refl (s : Shape) : Within s s := broadcast?_self s

theorem Within.broadcast {g h s u : Shape} (hg : Within g s) (hh : Within h s)
    (hu : broadcast? g h = some u) : Within u s := by
  obtain ⟨ds, hds, rfl⟩ := Option.map_eq_some_iff.mp hu
  apply within_iff.mpr
  rw [List.reverse_reverse]
  exact alignReversed_within (within_iff.mp hg) (within_iff.mp hh) hds

end Shape

namespace Tensor

variable {t u v : Tensor} {op : Operation} {s : Shape}

theorem shape_combine (h : t.combine op u = .ok v) :
    Shape.broadcast? t.shape u.shape = some v.shape := by
  obtain ⟨e, -, h⟩ := exists_of_bind_eq_ok h
  split at h
  · next shape hshape =>
    rw [hshape, ← Except.ok.inj h]
    rfl
  · cases h

theorem shape_combine_within (ht : t.shape.Within s) (hu : u.shape.Within s)
    (h : t.combine op u = .ok v) : v.shape.Within s :=
  ht.broadcast hu (shape_combine h)

/-- A tensor keeps its shape when it is combined with one within it. -/
theorem shape_combine_left (hu : u.shape.Within t.shape) (h : t.combine op u = .ok v) :
    v.shape = t.shape :=
  Option.some.inj ((shape_combine h).symm.trans hu)

theorem shape_combineScalar {x : Scalar} (h : t.combineScalar op x = .ok v) :
    v.shape = t.shape := by
  obtain ⟨e, -, h⟩ := exists_of_bind_eq_ok h
  obtain ⟨y, -, h⟩ := exists_of_bind_eq_ok h
  rw [← Except.ok.inj h]
  rfl

theorem shape_combineValue {x : Value} (hx : x.isSequence = false)
    (h : t.combineValue op x = .ok v) : v.shape = t.shape := by
  have hempty : (if t.size = 0 then .ok t else .error .wrongType : Except Fault Tensor) = .ok v →
      v.shape = t.shape := by
    intro hv
    split at hv
    · rw [← Except.ok.inj hv]
    · cases hv
  rcases x with _ | b | n | x | s | cs | bs | items | items | entries | rows | ⟨c, d⟩ | ⟨c, d⟩
  · exact hempty h
  · exact shape_combineScalar h
  · exact shape_combineScalar h
  · exact shape_combineScalar h
  · cases h
  · cases h
  · cases h
  · cases hx
  · cases hx
  · exact hempty h
  · cases h
  · cases h
  · cases h

theorem shape_combineSingle {x : Value} (hx : x.isSequence = false)
    (h : t.combineSingle op x = .ok v) : v.shape = t.shape := by
  rw [combineSingle] at h
  split at h
  · cases h
  · exact shape_combineValue hx h

theorem shape_clip {limit : Scalar} (h : t.clip limit = .ok v) : v.shape = t.shape := by
  obtain ⟨low, -, h⟩ := exists_of_bind_eq_ok h
  obtain ⟨high, -, h⟩ := exists_of_bind_eq_ok h
  split at h
  · rw [← Except.ok.inj h]
    rfl
  · rw [← Except.ok.inj h]
    rfl

end Tensor

end DataParallel

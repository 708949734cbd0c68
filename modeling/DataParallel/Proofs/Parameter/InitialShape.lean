import DataParallel.Parameter.Initial
import DataParallel.Proofs.Record.Payload
import DataParallel.Proofs.Step.Keeps
import DataParallel.Proofs.Tensor.Broadcast

/-!
# Shapes of initial weights

Whichever strategy fills it, an initial weight has the shape and the element type that were asked
for, and so many items can be addressed.  Draws are made as eight-byte floats, and no element type
takes more room.
-/

namespace DataParallel

open Step

/-! ## Shapes that were settled -/

theorem Shape.settled_ok {itemSize : Nat} {dims : List Int} {s : Shape}
    (h : Shape.settled itemSize dims = .ok s) :
    s = dims.map Int.toNat ∧ s.addressable itemSize = true := by
  obtain ⟨shape, hshape, h⟩ := exists_of_bind_eq_ok h
  have hdims : shape = dims.map Int.toNat := by
    rw [Shape.checked] at hshape
    split at hshape
    · exact (Except.ok.inj hshape).symm
    · cases hshape
  split at h
  · next haddressable =>
    rw [← Except.ok.inj h]
    exact ⟨hdims, haddressable⟩
  · cases h

theorem Shape.dimensions_int {dims dims' : List Int}
    (h : Shape.dimensions (dims.map Value.int) = .ok dims') : dims' = dims := by
  rw [Shape.dimensions] at h
  split at h
  · cases h
  · next hrank =>
    clear hrank
    induction dims generalizing dims' with
    | nil => exact (Except.ok.inj h).symm
    | cons d rest ih =>
      rw [List.map_cons, List.mapM_cons] at h
      obtain ⟨first, hfirst, h⟩ := exists_of_bind_eq_ok h
      obtain ⟨others, hothers, h⟩ := exists_of_bind_eq_ok h
      rw [← Except.ok.inj h, ih hothers]
      rw [Shape.dimension] at hfirst
      split at hfirst
      · rw [← Except.ok.inj hfirst]
      · cases hfirst

theorem ElementType.size_le (t : ElementType) : t.size ≤ 8 := by
  rcases t with _ | w | w | p
  · decide
  · cases w <;> decide
  · cases w <;> decide
  · cases p <;> decide

theorem Shape.addressable_of_le {s : Shape} {k l : Nat} (hkl : k ≤ l)
    (h : s.addressable l = true) : s.addressable k = true := by
  obtain ⟨hrank, hbytes⟩ := Shape.addressable_iff.mp h
  exact Shape.addressable_iff.mpr
    ⟨hrank, Nat.lt_of_le_of_lt (Nat.mul_le_mul_right _ hkl) hbytes⟩

/-- A tensor of a shape, with so many items of its element type as can be addressed. -/
structure Tensor.OfShape (s : Shape) (t : Tensor) : Prop where
  shape : t.shape = s
  addressable : s.addressable t.dtype.itemSize = true

theorem Tensor.OfShape.congr {s : Shape} {t u : Tensor} (h : t.OfShape s)
    (hshape : u.shape = t.shape) (hdtype : u.dtype = t.dtype) : u.OfShape s where
  shape := hshape.trans h.shape
  addressable := by
    rw [hdtype]
    exact h.addressable

/-- A tensor of the shape and the element type that were asked for. -/
structure Tensor.Asked (s : Shape) (dtype : Value) (t : Tensor) : Prop extends t.OfShape s where
  dtype : Dtype.ofValue dtype = .ok t.dtype

/-- A tensor of a shape, of whose largest items so many can be addressed. -/
structure Tensor.Roomy (s : Shape) (t : Tensor) : Prop where
  shape : t.shape = s
  addressable : s.addressable 8 = true

theorem Tensor.Roomy.congr {s : Shape} {t u : Tensor} (ht : t.Roomy s) (h : u.shape = t.shape) :
    u.Roomy s :=
  ⟨h.trans ht.shape, ht.addressable⟩

/-! ## Strategies -/

namespace Strategy

variable {dims : List Int} {scale dtype : Value}

theorem keeps_draw (sequence : Draws → Nat → Dtype.float64.Cell) :
    Keeps (fun _ => True) (Draws.draw sequence dims) (Tensor.Roomy (dims.map Int.toNat)) := by
  refine keeps_bind (keeps_ofExcept fun _ h => h) fun dims' hdims => ?_
  obtain rfl := Shape.dimensions_int hdims
  refine keeps_bind (keeps_ofExcept fun _ h => h) fun shape hshape => ?_
  obtain ⟨rfl, haddressable⟩ := Shape.settled_ok hshape
  intro k _
  refine ⟨trivial, fun t ht => ?_⟩
  rw [← Except.ok.inj ht]
  exact ⟨rfl, haddressable⟩

/-- What was drawn and scaled is converted to an element type of no more than eight bytes. -/
theorem keeps_cast {s : Shape} {t : Tensor} (ht : t.Roomy s) (dtype : Value) :
    Keeps (fun _ : Draws => True) (do
      let d ← Step.ofExcept (Dtype.ofValue dtype)
      return t.cast d) (Tensor.Asked s dtype) := by
  refine keeps_bind (keeps_ofExcept fun _ hd => hd) fun d hd => keeps_pure ⟨⟨ht.shape, ?_⟩, hd⟩
  exact Shape.addressable_of_le d.element.size_le ht.addressable

theorem keeps_scaledDraw (factor : Scalar) :
    Keeps (fun _ => True) (scaledDraw dims factor dtype)
      (Tensor.Asked (dims.map Int.toNat) dtype) := by
  refine keeps_bind (keeps_draw Draws.bell) fun t ht => ?_
  refine keeps_bind (keeps_ofExcept fun _ h => h) fun u hu => ?_
  exact keeps_cast (ht.congr (Tensor.shape_combineScalar hu)) dtype

/-- A tensor of one kind of elements is what was asked for. -/
theorem keeps_filled {make : Dtype → Shape → Tensor}
    (hmake : ∀ d s, (make d s).dtype = d ∧ (make d s).shape = s) :
    Keeps (fun _ : Draws => True) (Step.ofExcept (Tensor.filled make dims dtype))
      (Tensor.Asked (dims.map Int.toNat) dtype) := by
  refine keeps_ofExcept fun u hu => ?_
  obtain ⟨dims', hdims, hu⟩ := exists_of_bind_eq_ok hu
  rw [Shape.dimensions_int hdims] at hu
  obtain ⟨d, hd, hu⟩ := exists_of_bind_eq_ok hu
  obtain ⟨shape, hshape, hu⟩ := exists_of_bind_eq_ok hu
  obtain ⟨rfl, haddressable⟩ := Shape.settled_ok hshape
  rw [← Except.ok.inj hu]
  refine ⟨⟨(hmake _ _).2, ?_⟩, ?_⟩
  · rw [(hmake _ _).1]
    exact haddressable
  · rw [(hmake _ _).1]
    exact hd

/-- The initial contents are what was asked for, if the scale is no list. -/
theorem keeps_initial (strategy : Strategy) (hscale : scale.isSequence = false) :
    Keeps (fun _ => True) (strategy.initial dims scale dtype)
      (Tensor.Asked (dims.map Int.toNat) dtype) := by
  cases strategy with
  | zeros => exact keeps_filled fun _ _ => ⟨rfl, rfl⟩
  | ones => exact keeps_filled fun _ _ => ⟨rfl, rfl⟩
  | random =>
    refine keeps_bind (keeps_draw Draws.even) fun t ht => ?_
    refine keeps_bind (keeps_ofExcept fun _ h => h) fun moved hmoved => ?_
    refine keeps_bind (keeps_ofExcept fun _ h => h) fun doubled hdoubled => ?_
    refine keeps_bind (keeps_ofExcept fun _ h => h) fun scaled hscaled => ?_
    have hshape : scaled.shape = t.shape :=
      (Tensor.shape_combineSingle hscale hscaled).trans
        ((Tensor.shape_combineScalar hdoubled).trans (Tensor.shape_combineScalar hmoved))
    exact keeps_cast (ht.congr hshape) dtype
  | normal =>
    refine keeps_bind (keeps_draw Draws.bell) fun t ht => ?_
    refine keeps_bind (keeps_ofExcept fun _ h => h) fun scaled hscaled => ?_
    have hroomy := ht.congr (Tensor.shape_combineSingle hscale hscaled)
    split
    · exact fun _ _ => ⟨trivial, fun _ h => by cases h⟩
    · exact keeps_cast hroomy dtype
  | xavier =>
    exact keeps_bind (keeps_ofExcept fun _ _ => trivial) fun std _ => keeps_scaledDraw (.float std)
  | he =>
    exact keeps_bind (keeps_ofExcept fun _ _ => trivial) fun std _ => keeps_scaledDraw (.float std)

/-- The dimensions that a value lists. -/
def dimensions (shape : Value) : Except Fault (List Int) :=
  shape.items >>= fun vs => vs.mapM Value.toInt

/-- So are those of a weight whose shape and strategy are given by loose values. -/
theorem keeps_initialFor {shape strategy : Value} (hscale : scale.isSequence = false) :
    Keeps (fun _ => True) (initialFor shape strategy scale dtype) fun t =>
      ∃ dims, dimensions shape = .ok dims ∧ t.Asked (dims.map Int.toNat) dtype := by
  refine keeps_bind (keeps_ofExcept fun _ h => h) fun dims hdims => ?_
  rcases ofValue? strategy with _ | known
  · exact fun _ _ => ⟨trivial, fun _ h => by cases h⟩
  · exact (keeps_initial known hscale).mono fun t ht => ⟨dims, hdims, ht⟩

theorem dimensions_values (s : Shape) : dimensions (.tuple s.values) = .ok s.wholes :=
  Record.mapM_toInt_values s

end Strategy

end DataParallel

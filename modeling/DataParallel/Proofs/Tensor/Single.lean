import DataParallel.Proofs.Tensor.Broadcast

/-!
# Single elements

Tensors of one shape are combined position by position, so what becomes of an element is what
becomes of it alone, in a tensor of one element.  This holds of all arithmetic with plain numbers
too, and of overwriting.
-/

namespace DataParallel

namespace Tensor

/-- One element of a tensor, as a tensor of one dimension. -/
def single (t : Tensor) (i : Nat) : Tensor := t.pick [1] fun _ => i

/-- An element is told by its type and its cell. -/
theorem single_eq {d : Dtype} {t : Tensor} {i : Nat} {cells : List d.Cell}
    {h : cells.length = Shape.size [1]} (hdtype : t.dtype = d)
    (hcells : cells = [hdtype ▸ t.cell i]) : t.single i = ⟨d, [1], cells, h⟩ := by
  subst hdtype
  subst hcells
  rfl

variable {s : Shape} {i : Nat} {t u v : Tensor}

theorem cell_eq_getElem (t : Tensor) (h : i < t.cells.length) : t.cell i = t.cells[i] := by
  rw [cell, List.getD_eq_getElem?_getD, List.getElem?_eq_getElem h, Option.getD_some]

theorem single_map (d : Dtype) (f : t.dtype.Cell → d.Cell) (hi : i < t.size) :
    (t.map d f).single i = (t.single i).map d f := by
  have hlength : i < t.cells.length := by rwa [t.length_cells]
  refine single_eq rfl ?_
  show [f (t.cell i)] = [(t.map d f).cell i]
  rw [cell_eq_getElem t hlength, cell_eq_getElem _ (by simpa [map] using hlength)]
  simp [map]

/-- Tensors that are not stretched are combined position by position. -/
theorem cell_zipWith (d : Dtype) (f : t.dtype.Cell → u.dtype.Cell → d.Cell)
    (ht : t.shape = s) (hu : u.shape = s) (hi : i < s.size) :
    (zipWith t u s d f).cell i = f (t.cell i) (u.cell i) := by
  have hlength : i < t.cells.length := by rwa [t.length_cells, ht]
  have hlength' : i < u.cells.length := by rwa [u.length_cells, hu]
  show (List.zipWith f (t.stretched s) (u.stretched s)).getD i d.element.zero = _
  have hboth : i < (List.zipWith f t.cells u.cells).length := by
    rw [List.length_zipWith]
    exact Nat.lt_min.mpr ⟨hlength, hlength'⟩
  rw [stretched, if_pos ht, stretched, if_pos hu, cell_eq_getElem t hlength,
    cell_eq_getElem u hlength', List.getD_eq_getElem?_getD, List.getElem?_eq_getElem hboth,
    Option.getD_some, List.getElem_zipWith]

theorem single_zipWith (d : Dtype) (f : t.dtype.Cell → u.dtype.Cell → d.Cell)
    (ht : t.shape = s) (hu : u.shape = s) (hi : i < s.size) :
    (zipWith t u s d f).single i = zipWith (t.single i) (u.single i) [1] d f :=
  single_eq rfl (congrArg (fun x => [x]) (cell_zipWith d f ht hu hi).symm)

theorem single_zeros (d : Dtype) (s : Shape) (i : Nat) : (zeros d s).single i = zeros d [1] := by
  refine single_eq rfl ?_
  show [d.element.zero] = [(List.replicate s.size d.element.zero).getD i d.element.zero]
  by_cases h : i < s.size <;> simp [h]

/-- Between tensors of one shape nothing is stretched. -/
theorem assign_of_shape_eq (h : u.shape = t.shape) (hs : t.shape ≠ []) :
    t.assign u = .ok (zipWith t u t.shape t.dtype fun _ y =>
      ElementType.convert u.dtype.element t.dtype.element y) := by
  have hstretches : Shape.stretchesTo u.shape t.shape = true := by
    rw [h]
    simp [Shape.stretchesTo]
  have htrimmed : u.withShape (u.shape.drop (u.shape.length - t.shape.length)) = u := by
    rw [h, Nat.sub_self, List.drop_zero, ← h, withShape_shape]
  rw [assign, if_neg hs, hstretches, htrimmed]
  rfl

/-! ## Arithmetic -/

/-- The first tensor is of the shape, and the second one is its element at the position. -/
structure IsSingle (s : Shape) (i : Nat) (t t' : Tensor) : Prop where
  shape : t.shape = s
  single : t' = t.single i

section Arithmetic

variable {t' u' : Tensor} {op : Operation} (hi : i < s.size)

include hi

theorem IsSingle.map (ht : IsSingle s i t t') (d : Dtype) (f : t.dtype.Cell → d.Cell) :
    IsSingle s i (t.map d f) ((t.single i).map d f) :=
  ⟨ht.shape, (single_map d f (by rwa [size, ht.shape])).symm⟩

theorem combine_single (ht : IsSingle s i t t') (hu : IsSingle s i u u')
    (h : t.combine op u = .ok v) : ∃ v', t'.combine op u' = .ok v' ∧ IsSingle s i v v' := by
  obtain ⟨hshape, rfl⟩ := ht
  obtain ⟨hshape', rfl⟩ := hu
  obtain ⟨e, he, h⟩ := exists_of_bind_eq_ok h
  have hboth : Shape.broadcast? t.shape u.shape = some s := by
    rw [hshape, hshape', Shape.broadcast?_self]
  rw [hboth] at h
  obtain rfl := Except.ok.inj h
  have he' : resultType op ((t.single i).dtype.element.join (u.single i).dtype.element) = .ok e :=
    he
  rw [combine, he']
  exact ⟨_, rfl, rfl, (single_zipWith _ _ hshape hshape' hi).symm⟩

theorem combineScalar_single {x : Scalar} (ht : IsSingle s i t t')
    (h : t.combineScalar op x = .ok v) :
    ∃ v', t'.combineScalar op x = .ok v' ∧ IsSingle s i v v' := by
  obtain ⟨-, rfl⟩ := id ht
  obtain ⟨e, he, h⟩ := exists_of_bind_eq_ok h
  obtain ⟨y, hy, h⟩ := exists_of_bind_eq_ok h
  obtain rfl := Except.ok.inj h
  have he' : resultType op (x.meet (t.single i).dtype.element) = .ok e := he
  rw [combineScalar, he', ok_bind, hy]
  exact ⟨_, rfl, ht.map hi _ _⟩

theorem combineValue_single {x : Value} (hx : x.isSequence = false) (ht : IsSingle s i t t')
    (h : t.combineValue op x = .ok v) :
    ∃ v', t'.combineValue op x = .ok v' ∧ IsSingle s i v v' := by
  -- Of an empty tensor there is no element.
  have hempty :
      (if t.size = 0 then .ok t else .error .wrongType : Except Fault Tensor) ≠ .ok v := by
    rw [if_neg (by rw [size, ht.shape]; omega)]
    intro herror
    cases herror
  rcases x with _ | b | n | x | s | cs | bs | items | items | entries | rows | ⟨c, d⟩ | ⟨c, d⟩
  · exact absurd h hempty
  · exact combineScalar_single hi ht h
  · exact combineScalar_single hi ht h
  · exact combineScalar_single hi ht h
  · cases h
  · cases h
  · cases h
  · cases hx
  · cases hx
  · exact absurd h hempty
  · cases h
  · cases h
  · cases h

theorem combineSingle_single {x : Value} (hx : x.isSequence = false) (ht : IsSingle s i t t')
    (h : t.combineSingle op x = .ok v) :
    ∃ v', t'.combineSingle op x = .ok v' ∧ IsSingle s i v v' := by
  have hplain (w : Tensor) : w.combineSingle op x = w.combineValue op x := by
    rw [combineSingle, hx, Bool.and_false]
    rfl
  rw [hplain] at h ⊢
  exact combineValue_single hi hx ht h

omit hi in
/-- A clip changes every element in a way that depends on the type alone. -/
theorem clip_eq_map {limit : Scalar} (h : t.clip limit = .ok v) :
    ∃ (d : Dtype) (f : t.dtype.Cell → d.Cell), v = t.map d f ∧
      ∀ (shape : Shape) (cells : List t.dtype.Cell) (hcells : cells.length = shape.size),
        (⟨t.dtype, shape, cells, hcells⟩ : Tensor).clip limit =
          .ok (Tensor.map ⟨t.dtype, shape, cells, hcells⟩ d f) := by
  obtain ⟨low, hlow, h⟩ := exists_of_bind_eq_ok h
  obtain ⟨high, hhigh, h⟩ := exists_of_bind_eq_ok h
  split at h
  · next hnan =>
    refine ⟨_, _, (Except.ok.inj h).symm, fun shape cells hcells => ?_⟩
    rw [clip]
    dsimp only
    rw [hlow, ok_bind, hhigh, ok_bind]
    exact if_pos hnan
  · next hnan =>
    refine ⟨_, _, (Except.ok.inj h).symm, fun shape cells hcells => ?_⟩
    rw [clip]
    dsimp only
    rw [hlow, ok_bind, hhigh, ok_bind]
    exact if_neg hnan

theorem clip_single {limit : Scalar} (ht : IsSingle s i t t') (h : t.clip limit = .ok v) :
    ∃ v', t'.clip limit = .ok v' ∧ IsSingle s i v v' := by
  obtain ⟨-, rfl⟩ := id ht
  obtain ⟨d, f, rfl, hclip⟩ := clip_eq_map h
  exact ⟨_, hclip [1] [t.cell i] rfl, ht.map hi d f⟩

theorem square_single (ht : IsSingle s i t t') : IsSingle s i t.square t'.square := by
  obtain ⟨-, rfl⟩ := id ht
  exact ht.map hi _ _

theorem sqrt_single (ht : IsSingle s i t t') : IsSingle s i t.sqrt t'.sqrt := by
  obtain ⟨-, rfl⟩ := id ht
  exact ht.map hi _ _

theorem assign_single (ht : IsSingle s i t t') (hu : IsSingle s i u u')
    (h : t.assign u = .ok v) : ∃ v', t'.assign u' = .ok v' ∧ IsSingle s i v v' := by
  obtain ⟨rfl, rfl⟩ := ht
  obtain ⟨hshape, rfl⟩ := hu
  have hs : t.shape ≠ [] := by
    intro hnone
    rw [assign, if_pos hnone] at h
    cases h
  rw [assign_of_shape_eq hshape hs] at h
  obtain rfl := Except.ok.inj h
  exact ⟨_, assign_of_shape_eq (t := t.single i) (u := u.single i) rfl (List.cons_ne_nil 1 []), rfl,
    (single_zipWith _ _ rfl hshape hi).symm⟩

end Arithmetic

end Tensor

end DataParallel

import DataParallel.Tensor.Contents

/-!
# Contents in other shapes

Another shape of the same number of items changes nothing but the shape, for numbers and for items
that are only carried, so it can be taken back, and of two shapes the last one counts.
-/

namespace DataParallel

/-! ## Numbers -/

namespace Tensor

theorem withShape_withShape {t : Tensor} {s : Shape} (h : t.size = s.size) :
    (t.withShape s).withShape t.shape = t := by
  have hcells : t.cells.length = s.size := t.length_cells.trans h
  have hreshaped : t.withShape s = ⟨t.dtype, s, t.cells, hcells⟩ := dif_pos hcells
  rw [hreshaped]
  exact dif_pos t.length_cells

theorem size_withShape (t : Tensor) (s : Shape) : (t.withShape s).size = t.size := by
  rw [Tensor.withShape]
  split
  · next h => exact h.symm.trans t.length_cells
  · rfl

/-- Giving a tensor a shape twice is giving it the shape that comes out. -/
theorem withShape_twice (t : Tensor) (r s : Shape) :
    t.withShape ((t.withShape r).withShape s).shape = (t.withShape r).withShape s := by
  rcases t with ⟨d, own, cells, hcells⟩
  by_cases hr : cells.length = r.size
  · have hfirst : (⟨d, own, cells, hcells⟩ : Tensor).withShape r = ⟨d, r, cells, hr⟩ := dif_pos hr
    rw [hfirst]
    by_cases hs : cells.length = s.size
    · have hsecond : (⟨d, r, cells, hr⟩ : Tensor).withShape s = ⟨d, s, cells, hs⟩ := dif_pos hs
      rw [hsecond]
      exact dif_pos hs
    · have hsecond : (⟨d, r, cells, hr⟩ : Tensor).withShape s = ⟨d, r, cells, hr⟩ := dif_neg hs
      rw [hsecond]
      exact dif_pos hr
  · have hfirst : (⟨d, own, cells, hcells⟩ : Tensor).withShape r = ⟨d, own, cells, hcells⟩ :=
      dif_neg hr
    rw [hfirst]
    by_cases hs : cells.length = s.size
    · have hsecond : (⟨d, own, cells, hcells⟩ : Tensor).withShape s = ⟨d, s, cells, hs⟩ :=
        dif_pos hs
      rw [hsecond]
      exact dif_pos hs
    · have hsecond : (⟨d, own, cells, hcells⟩ : Tensor).withShape s = ⟨d, own, cells, hcells⟩ :=
        dif_neg hs
      rw [hsecond]
      exact dif_pos hcells

end Tensor

/-! ## Carried items -/

namespace CarriedItems

variable (c : CarriedItems)

@[simp] theorem code_withShape (s : Shape) : (c.withShape s).code = c.code := by
  rw [withShape]
  split <;> rfl

@[simp] theorem itemSize_withShape (s : Shape) : (c.withShape s).itemSize = c.itemSize := by
  rw [withShape]
  split <;> rfl

@[simp] theorem bytes_withShape (s : Shape) : (c.withShape s).bytes = c.bytes := by
  rw [withShape]
  split <;> rfl

theorem shape_withShape_eq (s : Shape) :
    (c.withShape s).shape = if c.shape.size = s.size then s else c.shape := by
  rw [withShape]
  split <;> rfl

theorem itemType_withShape (s : Shape) : (c.withShape s).itemType = c.itemType := by
  rw [itemType, itemType, code_withShape, itemSize_withShape]

theorem size_withShape (s : Shape) : (c.withShape s).shape.size = c.shape.size := by
  rw [shape_withShape_eq]
  split
  · next h => exact h.symm
  · rfl

theorem shape_withShape {c : CarriedItems} {s : Shape} (h : c.shape.size = s.size) :
    (c.withShape s).shape = s := by
  rw [shape_withShape_eq, if_pos h]

theorem withShape_shape : c.withShape c.shape = c := dif_pos rfl

theorem withShape_withShape (s : Shape) : (c.withShape s).withShape c.shape = c := by
  apply CarriedItems.ext
  · simp
  · simp
  · exact shape_withShape (c.size_withShape s)
  · simp

theorem withShape_twice (r s : Shape) :
    c.withShape ((c.withShape r).withShape s).shape = (c.withShape r).withShape s := by
  apply CarriedItems.ext
  · simp
  · simp
  · apply shape_withShape
    rw [size_withShape, size_withShape]
  · simp

end CarriedItems

/-! ## Both -/

namespace Contents

variable (c : Contents)

@[simp] theorem itemType_withShape (s : Shape) : (c.withShape s).itemType = c.itemType := by
  cases c with
  | tensor t => exact congrArg ItemType.number (t.dtype_withShape s)
  | carried c => exact c.itemType_withShape s

theorem size_withShape (s : Shape) : (c.withShape s).size = c.size := by
  cases c with
  | tensor t => exact t.size_withShape s
  | carried c => exact c.size_withShape s

theorem shape_withShape {c : Contents} {s : Shape} (h : c.size = s.size) :
    (c.withShape s).shape = s := by
  cases c with
  | tensor t => exact Tensor.shape_withShape h
  | carried c => exact CarriedItems.shape_withShape h

@[simp] theorem withShape_shape : c.withShape c.shape = c := by
  cases c with
  | tensor t => exact congrArg tensor t.withShape_shape
  | carried c => exact congrArg carried c.withShape_shape

theorem withShape_withShape {c : Contents} {s : Shape} (h : c.size = s.size) :
    (c.withShape s).withShape c.shape = c := by
  cases c with
  | tensor t => exact congrArg tensor (Tensor.withShape_withShape h)
  | carried c => exact congrArg carried (c.withShape_withShape s)

/-- Giving contents a shape twice is giving them the shape that comes out. -/
theorem withShape_twice (r s : Shape) :
    c.withShape ((c.withShape r).withShape s).shape = (c.withShape r).withShape s := by
  cases c with
  | tensor t => exact congrArg tensor (t.withShape_twice r s)
  | carried c => exact congrArg carried (c.withShape_twice r s)

/-- Contents with the type of numbers are numbers. -/
theorem exists_tensor_of_itemType {c : Contents} {d : Dtype} (h : c.itemType = .number d) :
    ∃ t, c = tensor t ∧ t.dtype = d := by
  cases c with
  | tensor t => exact ⟨t, rfl, ItemType.number.inj h⟩
  | carried c => cases h

@[simp] theorem itemType_withNumbers (t : Tensor) : (c.withNumbers t).itemType = c.itemType := by
  cases c with
  | tensor u => exact congrArg ItemType.number (Tensor.dtype_withShape _ _)
  | carried c => rfl

theorem size_withNumbers {c : Contents} {t : Tensor} (h : t.size = c.size) :
    (c.withNumbers t).size = c.size := by
  cases c with
  | tensor u => exact (Tensor.size_withShape _ _).trans h
  | carried c => rfl

theorem size_of_reshape {c d : Contents} {dims : List Int} (h : c.reshape dims = .ok d) :
    d.size = c.size := by
  obtain ⟨s, -, hs⟩ := exists_of_bind_eq_ok h
  rw [← Except.ok.inj hs]
  exact c.size_withShape s

@[simp] theorem itemType_zeros : c.zeros.itemType = c.itemType := by
  cases c <;> rfl

@[simp] theorem shape_zeros : c.zeros.shape = c.shape := by
  cases c <;> rfl

end Contents

end DataParallel

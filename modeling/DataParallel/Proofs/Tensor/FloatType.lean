import DataParallel.Tensor.Literal

/-!
# Arithmetic keeps the float type

Tensors of one float type are combined in this type, and a plain number takes
the type of the tensor that it meets.  Only a nested list among the settings
would bring a type of its own.
-/

namespace DataParallel

namespace Tensor

variable {p : Precision} {t u v : Tensor}

theorem resultType_float {op : Operation} {e : ElementType}
    (h : resultType op (.float p) = .ok e) : e = .float p := by
  cases op with
  | divide => exact (Except.ok.inj h).symm
  | add => exact (Except.ok.inj h).symm
  | subtract => exact (Except.ok.inj h).symm
  | multiply => exact (Except.ok.inj h).symm

theorem dtype_combine {op : Operation} (ht : t.dtype = .native (.float p))
    (hu : u.dtype = .native (.float p)) (h : t.combine op u = .ok v) :
    v.dtype = .native (.float p) := by
  have hjoin : t.dtype.element.join u.dtype.element = .float p := by
    rw [ht, hu]
    exact ElementType.join_self _
  rw [combine, hjoin] at h
  obtain ⟨e, he, h⟩ := exists_of_bind_eq_ok h
  rw [resultType_float he] at h
  split at h
  · rw [← Except.ok.inj h]
    rfl
  · cases h

theorem meet_float (ht : t.dtype = .native (.float p)) (s : Scalar) :
    s.meet t.dtype.element = .float p := by
  rw [ht]
  cases s with
  | bool _ => rfl
  | int _ => rfl
  | float _ => rfl

theorem dtype_combineScalar {op : Operation} {s : Scalar} (ht : t.dtype = .native (.float p))
    (h : t.combineScalar op s = .ok v) : v.dtype = .native (.float p) := by
  rw [combineScalar, meet_float ht] at h
  obtain ⟨e, he, h⟩ := exists_of_bind_eq_ok h
  rw [resultType_float he] at h
  obtain ⟨y, -, h⟩ := exists_of_bind_eq_ok h
  rw [← Except.ok.inj h]
  rfl

theorem dtype_combineValue {op : Operation} {x : Value} (hx : x.isSequence = false)
    (ht : t.dtype = .native (.float p)) (h : t.combineValue op x = .ok v) :
    v.dtype = .native (.float p) := by
  have hempty : (if t.size = 0 then .ok t else .error .wrongType : Except Fault Tensor) = .ok v →
      v.dtype = .native (.float p) := by
    intro hy
    split at hy
    · rw [← Except.ok.inj hy, ht]
    · cases hy
  rcases x with _ | b | n | x | s | cs | bs | items | items | entries | rows | ⟨c, d⟩ | ⟨c, d⟩
  · exact hempty h
  · exact dtype_combineScalar ht h
  · exact dtype_combineScalar ht h
  · exact dtype_combineScalar ht h
  · cases h
  · cases h
  · cases h
  · cases hx
  · cases hx
  · exact hempty h
  · cases h
  · cases h
  · cases h

theorem dtype_combineSingle {op : Operation} {x : Value} (hx : x.isSequence = false)
    (ht : t.dtype = .native (.float p)) (h : t.combineSingle op x = .ok v) :
    v.dtype = .native (.float p) := by
  rw [combineSingle] at h
  split at h
  · cases h
  · exact dtype_combineValue hx ht h

theorem dtype_clip {limit : Scalar} (ht : t.dtype = .native (.float p))
    (h : t.clip limit = .ok v) : v.dtype = .native (.float p) := by
  rw [clip, meet_float ht] at h
  obtain ⟨low, -, h⟩ := exists_of_bind_eq_ok h
  obtain ⟨high, -, h⟩ := exists_of_bind_eq_ok h
  split at h
  · rw [← Except.ok.inj h]
    rfl
  · rw [← Except.ok.inj h]
    rfl

theorem dtype_square (ht : t.dtype = .native (.float p)) :
    t.square.dtype = .native (.float p) := by
  have hsquare : t.square.dtype = .native t.dtype.element.square := rfl
  rw [hsquare, ht]
  rfl

theorem dtype_sqrt (ht : t.dtype = .native (.float p)) :
    t.sqrt.dtype = .native (.float p) := by
  have hsqrt : t.sqrt.dtype = .native t.dtype.element.root := rfl
  rw [hsqrt, ht]
  rfl

end Tensor

/-! ## Floats of any size -/

theorem ElementType.isFloat_join {s t : ElementType}
    (h : s.isFloat = true ∨ t.isFloat = true) : (s.join t).isFloat = true := by
  rcases h with h | h
  · cases s <;> cases h
    cases t <;> rfl
  · cases t <;> cases h
    cases s <;> rfl

theorem ElementType.isFloat_withFloat (t : ElementType) : t.withFloat.isFloat = true := by
  cases t <;> rfl

namespace Tensor

variable {op : Operation} {t u v : Tensor}

/-- The elements are floats of some size. -/
def IsFloat (t : Tensor) : Prop := t.dtype.element.isFloat = true

theorem isFloat_resultType {e e' : ElementType} (h : resultType op e = .ok e')
    (he : op = .divide ∨ e.isFloat = true) : e'.isFloat = true := by
  rcases he with rfl | he
  · rw [← Except.ok.inj h]
    exact e.isFloat_withFloat
  · cases e <;> cases he
    rw [resultType_float h]
    rfl

/-- A float on one side makes a float. -/
theorem isFloat_combine (h : t.combine op u = .ok v) (hfloat : t.IsFloat ∨ u.IsFloat) :
    v.IsFloat := by
  obtain ⟨e, he, h⟩ := exists_of_bind_eq_ok h
  split at h
  · rw [← Except.ok.inj h]
    exact isFloat_resultType he (Or.inr (ElementType.isFloat_join hfloat))
  · cases h

theorem isFloat_meet {e : ElementType} {s : Scalar}
    (h : e.isFloat = true ∨ ∃ x, s = .float x) : (s.meet e).isFloat = true := by
  rcases h with h | ⟨x, rfl⟩
  · cases e <;> cases h
    cases s <;> rfl
  · exact e.isFloat_withFloat

theorem isFloat_combineScalar {s : Scalar} (h : t.combineScalar op s = .ok v)
    (hfloat : op = .divide ∨ t.IsFloat ∨ ∃ x, s = .float x) : v.IsFloat := by
  obtain ⟨e, he, h⟩ := exists_of_bind_eq_ok h
  obtain ⟨y, -, h⟩ := exists_of_bind_eq_ok h
  rw [← Except.ok.inj h]
  exact isFloat_resultType he (hfloat.imp_right isFloat_meet)

theorem isFloat_combineList {x : Value} (h : combineValue.combineList op t x = .ok v)
    (hfloat : t.IsFloat) : v.IsFloat := by
  obtain ⟨l, -, h⟩ := exists_of_bind_eq_ok h
  obtain ⟨common, -, h⟩ := exists_of_bind_eq_ok h
  split at h
  · obtain ⟨other, -, h⟩ := exists_of_bind_eq_ok h
    exact isFloat_combine h (Or.inl hfloat)
  · obtain ⟨numbers, -, h⟩ := exists_of_bind_eq_ok h
    obtain ⟨other, -, h⟩ := exists_of_bind_eq_ok h
    exact isFloat_combine h (Or.inl hfloat)

/-- A float stays one under every value, and a float makes one of every tensor. -/
theorem isFloat_combineValue {x : Value} (h : t.combineValue op x = .ok v)
    (hfloat : t.IsFloat ∨ ∃ y, x = .float y) : v.IsFloat := by
  rcases hfloat with hfloat | ⟨y, rfl⟩
  · have hempty : (if t.size = 0 then .ok t else .error .wrongType : Except Fault Tensor) = .ok v →
        v.IsFloat := by
      intro hsame
      split at hsame
      · rw [← Except.ok.inj hsame]
        exact hfloat
      · cases hsame
    cases x with
    | null => exact hempty h
    | record entries => exact hempty h
    | bool b => exact isFloat_combineScalar h (Or.inr (Or.inl hfloat))
    | int n => exact isFloat_combineScalar h (Or.inr (Or.inl hfloat))
    | float y => exact isFloat_combineScalar h (Or.inr (Or.inl hfloat))
    | list items => exact isFloat_combineList h hfloat
    | tuple items => exact isFloat_combineList h hfloat
    | _ => cases h
  · exact isFloat_combineScalar h (Or.inr (Or.inr ⟨y, rfl⟩))

theorem isFloat_combineSingle {x : Value} (h : t.combineSingle op x = .ok v)
    (hfloat : t.IsFloat ∨ ∃ y, x = .float y) : v.IsFloat := by
  rw [combineSingle] at h
  split at h
  · cases h
  · exact isFloat_combineValue h hfloat

end Tensor

end DataParallel

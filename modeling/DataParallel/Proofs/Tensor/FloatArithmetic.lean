import DataParallel.Tensor.Literal

/-!
# Float arithmetic within one shape

Floats of one size and one shape can always be calculated with, and with plain floats too: the
operations give floats of this size and shape, in the usual byte order whatever the order of the
operands is.  They can be written over each other unless the shape has no dimensions.
-/

namespace DataParallel

/-- A plain float. -/
def Value.IsFloat (v : Value) : Prop := ∃ x, v = .float x

/-- A plain number that is a float, or that has one near to it. -/
def Value.IsNumber (v : Value) : Prop := ∃ x y, v = .ofScalar x ∧ x.toFloat = .ok y

theorem Value.IsFloat.isNumber {v : Value} (h : v.IsFloat) : v.IsNumber := by
  obtain ⟨x, rfl⟩ := h
  exact ⟨.float x, x, rfl, rfl⟩

theorem Value.IsNumber.not_isSequence {v : Value} (h : v.IsNumber) : v.isSequence = false := by
  obtain ⟨x, y, rfl, -⟩ := h
  cases x <;> rfl

namespace Tensor

/-- Floats of a size, in either byte order, and of a shape. -/
structure Floats (p : Precision) (s : Shape) (t : Tensor) : Prop where
  element : t.dtype.element = .float p
  shape : t.shape = s

/-- Floats of a size, in the usual byte order, and of a shape. -/
structure NativeFloats (p : Precision) (s : Shape) (t : Tensor) : Prop where
  dtype : t.dtype = .native (.float p)
  shape : t.shape = s

theorem NativeFloats.floats {p : Precision} {s : Shape} {t : Tensor} (h : t.NativeFloats p s) :
    t.Floats p s :=
  ⟨congrArg Dtype.element h.dtype, h.shape⟩

variable {p : Precision} {s : Shape} {t u : Tensor}

theorem resultType_of_float (op : Operation) (p : Precision) :
    resultType op (.float p) = .ok (.float p) := by
  cases op <;> rfl

theorem exists_combine (op : Operation) (ht : t.Floats p s) (hu : u.Floats p s) :
    ∃ v, t.combine op u = .ok v ∧ v.NativeFloats p s := by
  have hjoin : t.dtype.element.join u.dtype.element = .float p := by
    rw [ht.element, hu.element, ElementType.join_self]
  rw [combine, hjoin, resultType_of_float, ok_bind, ht.shape, hu.shape, Shape.broadcast?_self]
  exact ⟨_, rfl, rfl, rfl⟩

theorem Floats.meet (ht : t.Floats p s) (x : Scalar) : x.meet t.dtype.element = .float p := by
  rw [ht.element]
  cases x <;> rfl

/-- A number that is a float is an element of every float type. -/
theorem exists_toCell {x : Scalar} {y : Float} (hx : x.toFloat = .ok y) (p : Precision) :
    ∃ c, x.toCell (.float p) = .ok c := by
  have hcell : x.toCell (.float p) =
      x.toFloat >>= fun y => .ok (ElementType.ofFloatValue (.float p) (Number.floatValue y)) := by
    cases x <;> rfl
  rw [hcell, hx, ok_bind]
  exact ⟨_, rfl⟩

theorem exists_combineScalar (op : Operation) (ht : t.Floats p s) {x : Scalar} {y : Float}
    (hx : x.toFloat = .ok y) : ∃ v, t.combineScalar op x = .ok v ∧ v.NativeFloats p s := by
  obtain ⟨c, hc⟩ := exists_toCell hx p
  rw [combineScalar, ht.meet, resultType_of_float, ok_bind, hc, ok_bind]
  exact ⟨_, rfl, rfl, ht.shape⟩

theorem exists_combineValue (op : Operation) (ht : t.Floats p s) {x : Value} (hx : x.IsNumber) :
    ∃ v, t.combineValue op x = .ok v ∧ v.NativeFloats p s := by
  obtain ⟨y, z, rfl, hz⟩ := hx
  have hscalar : t.combineValue op (.ofScalar y) = t.combineScalar op y := by
    cases y <;> rfl
  rw [hscalar]
  exact exists_combineScalar op ht hz

theorem exists_combineSingle (op : Operation) (ht : t.Floats p s) {x : Value} (hx : x.IsNumber) :
    ∃ v, t.combineSingle op x = .ok v ∧ v.NativeFloats p s := by
  have hsingle : t.combineSingle op x = t.combineValue op x :=
    if_neg (by simp [hx.not_isSequence])
  rw [hsingle]
  exact exists_combineValue op ht hx

theorem exists_bound? (a : ElementType) (p : Precision) (vacuous : Int → Bool) (limit : Float) :
    ∃ bound, bound? a (.float p) vacuous (.float limit) = .ok bound := by
  obtain ⟨c, hc⟩ := exists_toCell (x := .float limit) rfl p
  refine ⟨some c, ?_⟩
  show some <$> (Scalar.float limit).toCell (.float p) = _
  rw [hc]
  rfl

theorem exists_clip (ht : t.Floats p s) (limit : Float) :
    ∃ v, t.clip (.float limit) = .ok v ∧ v.NativeFloats p s := by
  have hneg : (Scalar.float limit).neg = .float (-limit) := rfl
  obtain ⟨low, hlow⟩ := exists_bound? t.dtype.element p
    (fun n => n ≤ (Scalar.range (.float p)).1) (-limit)
  obtain ⟨high, hhigh⟩ := exists_bound? t.dtype.element p
    (fun n => (Scalar.range (.float p)).2 ≤ n) limit
  rw [clip, hneg, ht.meet, hlow, ok_bind, hhigh, ok_bind]
  split
  · exact ⟨_, rfl, rfl, ht.shape⟩
  · exact ⟨_, rfl, rfl, ht.shape⟩

theorem nativeFloats_square (ht : t.Floats p s) : t.square.NativeFloats p s := by
  refine ⟨?_, ht.shape⟩
  show Dtype.native t.dtype.element.square = _
  rw [ht.element]
  rfl

theorem nativeFloats_sqrt (ht : t.Floats p s) : t.sqrt.NativeFloats p s := by
  refine ⟨?_, ht.shape⟩
  show Dtype.native t.dtype.element.root = _
  rw [ht.element]
  rfl

/-- A tensor with dimensions can be overwritten by one of its shape, and keeps its type. -/
theorem exists_assign (ht : t.shape = s) (hu : u.shape = s) (hs : s ≠ []) :
    ∃ v, t.assign u = .ok v ∧ v.dtype = t.dtype ∧ v.shape = s := by
  have hstretches : Shape.stretchesTo s s = true := by
    simp [Shape.stretchesTo]
  rw [assign, ht, hu, if_neg hs, hstretches]
  exact ⟨_, rfl, rfl, rfl⟩

theorem assign_of_shape_eq_nil (ht : t.shape = []) (u : Tensor) :
    t.assign u = .error .outOfRange :=
  if_pos ht

end Tensor

end DataParallel

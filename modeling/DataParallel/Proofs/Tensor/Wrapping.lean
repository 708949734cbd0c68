import DataParallel.Proofs.Optimizer.Training
import DataParallel.Proofs.Tensor.Single
import Mathlib.Algebra.BigOperators.Group.List.Basic
import Mathlib.Algebra.Ring.Nat

/-!
# Sums that wrap around

Integers of one type and one shape add up element by element, in arithmetic that wraps around.  So
their sum can be said in terms of whole numbers, where it does not matter in which order, or in
which groups, they are added: a group that was added up first has lost whole turns only.
-/

namespace DataParallel

namespace Tensor

variable {d : Dtype} {s : Shape} {t u : Tensor}

/-! ## Tensors of whole numbers -/

/-- An element as a whole number from zero on. -/
def nat (t : Tensor) (i : Nat) : Nat := (t.cell i).toNat

/-- The tensor of whole numbers that are given by position; they wrap around. -/
def ofNats (d : Dtype) (s : Shape) (f : Nat → Nat) : Tensor :=
  build d s fun i => BitVec.ofNat (8 * d.element.size) (f i)

/-- A tensor of a type and a shape. -/
structure Of (d : Dtype) (s : Shape) (t : Tensor) : Prop where
  dtype : t.dtype = d
  shape : t.shape = s

/-- Where whole numbers of an element type wrap around. -/
def turn (e : ElementType) : Nat := 2 ^ (8 * e.size)

theorem nat_ofNats (d : Dtype) {f : Nat → Nat} {i : Nat} (hi : i < s.size) :
    (ofNats d s f).nat i = f i % turn d.element := by
  have hcell : (ofNats d s f).cell i = BitVec.ofNat (8 * d.element.size) (f i) := by
    simp [ofNats, build, cell, hi]
  calc (ofNats d s f).nat i = (BitVec.ofNat (8 * d.element.size) (f i)).toNat :=
        congrArg BitVec.toNat hcell
    _ = f i % turn d.element := BitVec.toNat_ofNat _ _

theorem ofNats_congr (d : Dtype) {f g : Nat → Nat}
    (h : ∀ i < s.size, f i % turn d.element = g i % turn d.element) :
    ofNats d s f = ofNats d s g := by
  have hcells : (List.range s.size).map (fun i => BitVec.ofNat (8 * d.element.size) (f i)) =
      (List.range s.size).map fun i => BitVec.ofNat (8 * d.element.size) (g i) := by
    refine List.map_congr_left fun i hi => BitVec.eq_of_toNat_eq ?_
    rw [BitVec.toNat_ofNat, BitVec.toNat_ofNat]
    exact h i (List.mem_range.mp hi)
  rw [ofNats, ofNats, build, build]
  congr 1

theorem Of.ofNats_nat (h : t.Of d s) : ofNats d s t.nat = t := by
  obtain ⟨rfl, rfl⟩ := h
  have hcells : (List.range t.shape.size).map (fun i =>
      BitVec.ofNat (8 * t.dtype.element.size) (t.nat i)) = t.cells := by
    refine List.ext_getElem (by rw [List.length_map, List.length_range, t.length_cells]) ?_
    intro i hi hi'
    rw [List.getElem_map, List.getElem_range, nat, BitVec.ofNat_toNat, BitVec.setWidth_eq,
      cell_eq_getElem t hi']
  rw [ofNats, build]
  congr 1

/-! ## Sums of two -/

theorem toNat_apply_add {e : ElementType} (he : e.isInteger = true) (x y : e.Cell) :
    (e.apply .add x y).toNat = (x.toNat + y.toNat) % turn e := by
  cases e with
  | signed w => exact BitVec.toNat_add x y
  | unsigned w => exact BitVec.toNat_add x y
  | bool => cases he
  | float p => cases he

theorem toNat_convert {e e' : ElementType} (h : e = e') (x : e.Cell) :
    (ElementType.convert e e' x).toNat = x.toNat := by
  subst h
  rw [ElementType.convert_self]

/-- Whole numbers that are right up to whole turns tell a tensor. -/
theorem Of.eq_ofNats (h : t.Of d s) {f : Nat → Nat}
    (hf : ∀ i < s.size, t.nat i % turn d.element = f i % turn d.element) : t = ofNats d s f := by
  rw [← ofNats_congr d hf, h.ofNats_nat]

/-- Integers of one type and one shape add up, in whichever byte orders they are. -/
theorem combine_add {e : ElementType} (he : e.isInteger = true) (ht : t.dtype.element = e)
    (hu : u.dtype.element = e) (hts : t.shape = s) (hus : u.shape = s) :
    t.combine .add u = .ok (ofNats (.native e) s fun i => t.nat i + u.nat i) := by
  have hresult : resultType .add (t.dtype.element.join u.dtype.element) = .ok e := by
    rw [ht, hu, ElementType.join_self]
    rfl
  obtain ⟨v, hv, hof, hnat⟩ : ∃ v, t.combine .add u = .ok v ∧ v.Of (.native e) s ∧
      ∀ i < s.size, v.nat i = (t.nat i + u.nat i) % turn e := by
    rw [combine, hresult, ok_bind, hts, hus, Shape.broadcast?_self]
    refine ⟨_, rfl, ⟨rfl, rfl⟩, fun i hi => ?_⟩
    calc _ = (e.apply .add (ElementType.convert _ e (t.cell i))
          (ElementType.convert _ e (u.cell i))).toNat :=
          congrArg BitVec.toNat (cell_zipWith (.native e) _ hts hus hi)
      _ = (t.nat i + u.nat i) % turn e := by
          rw [toNat_apply_add he, toNat_convert ht, toNat_convert hu, nat, nat]
  rw [hv]
  refine congrArg Except.ok (hof.eq_ofNats fun i hi => ?_)
  rw [hnat i hi]
  exact Nat.mod_mod _ _

/-! ## Sums of many -/

/-- What tensors of a type and a shape add up to: there may be nothing to add up, and a single
tensor is left as it is. -/
def wrappingSum (d : Dtype) (s : Shape) : List Tensor → Option Tensor
  | [] => none
  | [t] => some t
  | ts => some (ofNats (.native d.element) s fun i => (ts.map (·.nat i)).sum)

theorem wrappingSum_eq_none {ts : List Tensor} : wrappingSum d s ts = none ↔ ts = [] := by
  rcases ts with _ | ⟨t, _ | ⟨t', ts⟩⟩ <;> simp [wrappingSum]

/-- The order does not matter. -/
theorem wrappingSum_perm (d : Dtype) (s : Shape) {ts us : List Tensor} (h : ts.Perm us) :
    wrappingSum d s ts = wrappingSum d s us := by
  have hsums (i : Nat) : (ts.map (·.nat i)).sum = (us.map (·.nat i)).sum :=
    (h.map _).sum_eq
  rcases ts with _ | ⟨t, _ | ⟨t', ts⟩⟩
  · rw [List.nil_perm.mp h]
  · rw [List.singleton_perm.mp h]
  · rcases us with _ | ⟨u, _ | ⟨u', us⟩⟩
    · cases h.length_eq
    · cases h.length_eq
    · simp only [wrappingSum, hsums]

/-- The sum has the elements of what is added up, and the whole numbers up to whole turns. -/
structure AddsUp (d : Dtype) (s : Shape) (ts : List Tensor) (sum : Tensor) : Prop where
  element : sum.dtype.element = d.element
  shape : sum.shape = s
  total : ∀ i < s.size,
    sum.nat i % turn d.element = (ts.map (·.nat i)).sum % turn d.element

theorem addsUp_wrappingSum {ts : List Tensor} {sum : Tensor} (hts : ∀ t ∈ ts, t.Of d s)
    (h : wrappingSum d s ts = some sum) : AddsUp d s ts sum := by
  rcases ts with _ | ⟨t, _ | ⟨t', ts⟩⟩
  · cases h
  · obtain rfl := Option.some.inj h
    obtain ⟨hdtype, hshape⟩ := hts t List.mem_cons_self
    refine ⟨congrArg Dtype.element hdtype, hshape, fun i _ => ?_⟩
    rw [List.map_singleton, List.sum_singleton]
  · obtain rfl := Option.some.inj h
    refine ⟨rfl, rfl, fun i hi => ?_⟩
    rw [nat_ofNats _ hi]
    exact Nat.mod_mod _ _

/-- Two sums add up to the sum of all. -/
theorem combine_wrappingSum {ts us : List Tensor} {t u : Tensor}
    (hd : d.element.isInteger = true) (hts : ∀ t ∈ ts, t.Of d s) (hus : ∀ t ∈ us, t.Of d s)
    (ht : wrappingSum d s ts = some t) (hu : wrappingSum d s us = some u) :
    ∃ v, t.combine .add u = .ok v ∧ wrappingSum d s (ts ++ us) = some v := by
  have hleft := addsUp_wrappingSum hts ht
  have hright := addsUp_wrappingSum hus hu
  refine ⟨_, combine_add hd hleft.element hright.element hleft.shape hright.shape, ?_⟩
  have hmany : wrappingSum d s (ts ++ us) =
      some (ofNats (.native d.element) s fun i => ((ts ++ us).map (·.nat i)).sum) := by
    rcases ts with _ | ⟨t, ts⟩
    · cases ht
    rcases us with _ | ⟨u, us⟩
    · cases hu
    rcases ts with _ | ⟨t', ts⟩
    · rfl
    · rfl
  rw [hmany]
  refine congrArg some (ofNats_congr _ fun i hi => ?_)
  show _ % turn d.element = _ % turn d.element
  rw [List.map_append, List.sum_append, Nat.add_mod, ← hleft.total i hi, ← hright.total i hi,
    ← Nat.add_mod]

/-- By induction on what is added to the sum of others. -/
theorem foldlM_combine {ts us : List Tensor} {t : Tensor} (hd : d.element.isInteger = true)
    (hts : ∀ t ∈ ts, t.Of d s) (hus : ∀ t ∈ us, t.Of d s) (ht : wrappingSum d s ts = some t) :
    ∃ v, us.foldlM (fun sum u => sum.combine .add u) t = .ok v ∧
      wrappingSum d s (ts ++ us) = some v := by
  induction us generalizing ts t with
  | nil =>
    rw [List.append_nil]
    exact ⟨t, rfl, ht⟩
  | cons u us ih =>
    obtain ⟨hu, hrest⟩ := List.forall_mem_cons.mp hus
    have hone : ∀ t ∈ [u], t.Of d s := by simpa using hu
    obtain ⟨v, hv, hsum⟩ := combine_wrappingSum hd hts hone ht rfl
    obtain ⟨w, hw, hall⟩ := ih (List.forall_mem_append.mpr ⟨hts, hone⟩) hrest hsum
    rw [List.append_assoc, List.singleton_append] at hall
    refine ⟨w, ?_, hall⟩
    rw [List.foldlM_cons, hv]
    exact hw

theorem sum?_eq_wrappingSum {ts : List Tensor} (hd : d.element.isInteger = true)
    (hts : ∀ t ∈ ts, t.Of d s) : sum? ts = .ok (wrappingSum d s ts) := by
  rcases ts with _ | ⟨t, ts⟩
  · rfl
  obtain ⟨ht, hrest⟩ := List.forall_mem_cons.mp hts
  have hfirst : wrappingSum d s [t] = some t := rfl
  obtain ⟨v, hv, hsum⟩ := foldlM_combine hd (by simpa using ht) hrest hfirst
  rw [sum?, hv]
  exact congrArg Except.ok hsum.symm

end Tensor

end DataParallel

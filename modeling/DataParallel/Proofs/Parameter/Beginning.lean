import DataParallel.Proofs.Parameter.InitialShape
import DataParallel.Proofs.Number.Whole
import DataParallel.Proofs.Step.Succeeds
import DataParallel.Proofs.Tensor.FloatArithmetic

/-!
# Weights that can begin

A weight begins whatever its strategy, scale and element type are, if its shape can be addressed
while it is calculated, but for two gaps: the strategy `normal` needs a dimension, and `xavier`
divides by the number of inputs and outputs, which may both be zero.  The strategies `he` and
`random` have no such gap.  How much memory there is does not count.
-/

namespace DataParallel

open Step

namespace Shape

variable {itemSize : Nat} {s : Shape}

theorem dimensions_of_addressable (hpos : 0 < itemSize) (h : s.addressable itemSize = true) :
    dimensions (s.wholes.map Value.int) = .ok s.wholes := by
  have hfits := Fits.of_addressable hpos h
  rw [← values_eq]
  exact dimensions_values hfits.rank fun d hd => hfits.dimension_lt hd

theorem settled_of_addressable (h : s.addressable itemSize = true) :
    settled itemSize s.wholes = .ok s := by
  have hchecked : checked s.wholes = .ok s := by
    rw [checked, if_pos (by simp [wholes]), toNat_wholes]
  rw [Shape.settled, hchecked, ok_bind]
  exact if_pos h

theorem addressable_of_settled {t : Shape} (h : Shape.settled itemSize s.wholes = .ok t) :
    s.addressable itemSize = true := by
  obtain ⟨rfl, haddressable⟩ := settled_ok h
  rwa [toNat_wholes] at haddressable

end Shape

namespace Strategy

/-- The size of the items with which a weight is calculated: drawn numbers are eight-byte floats. -/
def itemSize (d : Dtype) : Strategy → Nat
  | zeros | ones => d.itemSize
  | random | normal | xavier | he => Dtype.float64.itemSize

/-- How a strategy fails to make a weight of a shape that can be addressed. -/
def gap : Strategy → Shape → Option Fault
  | normal, [] => some .missingPart
  | xavier, 0 :: 0 :: _ => some .zeroDivisor
  | _, _ => none

variable {s : Shape} {scale dtype : Value} {d : Dtype}

/-- A weight of the shape and the element type. -/
structure Begun (s : Shape) (d : Dtype) (t : Tensor) : Prop where
  shape : t.shape = s
  dtype : t.dtype = d

/-! ## Shapes that can be addressed -/

theorem succeeds_draw (sequence : Draws → Nat → Dtype.float64.Cell)
    (h : s.addressable Dtype.float64.itemSize = true) :
    Succeeds (fun _ => True) (Draws.draw sequence s.wholes) (Tensor.NativeFloats .double s) := by
  refine succeeds_bind (P := (· = s.wholes))
    (succeeds_ofExcept ⟨_, Shape.dimensions_of_addressable (by decide) h, rfl⟩) fun dims hdims => ?_
  refine succeeds_bind (P := (· = s))
    (succeeds_ofExcept ⟨_, by rw [hdims]; exact Shape.settled_of_addressable h, rfl⟩)
    fun shape hshape => ?_
  intro k _
  exact ⟨_, _, rfl, trivial, rfl, hshape⟩

theorem succeeds_cast (hd : Dtype.ofValue dtype = .ok d) {t : Tensor}
    (ht : t.NativeFloats .double s) :
    Succeeds (fun _ : Draws => True) (do
      let d ← Step.ofExcept (Dtype.ofValue dtype)
      return t.cast d) (Begun s d) := by
  refine succeeds_bind (P := (· = d)) (succeeds_ofExcept ⟨d, hd, rfl⟩) fun e he => ?_
  exact succeeds_pure ⟨ht.shape, he⟩

theorem succeeds_scaledDraw (h : s.addressable Dtype.float64.itemSize = true) (x : Float)
    (hd : Dtype.ofValue dtype = .ok d) :
    Succeeds (fun _ => True) (scaledDraw s.wholes (.float x) dtype) (Begun s d) := by
  refine succeeds_bind (succeeds_draw Draws.bell h) fun t ht => ?_
  refine succeeds_bind (succeeds_ofExcept (Tensor.exists_combineScalar .multiply ht.floats rfl))
    fun u hu => ?_
  exact succeeds_cast hd hu

theorem exists_filled {make : Dtype → Shape → Tensor}
    (hmake : ∀ d s, (make d s).dtype = d ∧ (make d s).shape = s)
    (hd : Dtype.ofValue dtype = .ok d) (h : s.addressable d.itemSize = true) :
    ∃ t, Tensor.filled make s.wholes dtype = .ok t ∧ Begun s d t := by
  rw [Tensor.filled, Shape.dimensions_of_addressable d.element.size_pos h, ok_bind, hd, ok_bind,
    Shape.settled_of_addressable h]
  exact ⟨_, rfl, (hmake d s).2, (hmake d s).1⟩

theorem exists_toFloat {n : Nat} (h : n < 2 ^ 64) : ∃ y, (Scalar.int n).toFloat = .ok y := by
  have hlt : ∀ m, 64 ≤ m → n < 2 ^ m := fun m hm =>
    Nat.lt_of_lt_of_le h (Nat.pow_le_pow_right (by decide) hm)
  obtain ⟨y, hy, -⟩ := Number.exists_floatOfInt? (hlt 1023 (by decide))
  rw [Scalar.toFloat, hy]
  exact ⟨y, rfl⟩

/-- A number of inputs and outputs that is not zero has a deviation. -/
theorem exists_deviation {n : Nat} (hn : n ≠ 0) (h : n < 2 ^ 64) :
    ∃ x, deviation n = .ok x := by
  obtain ⟨y, hy⟩ := exists_toFloat h
  rw [deviation, if_neg (by omega), hy]
  exact ⟨_, rfl⟩

/-! ## Inputs and outputs -/

/-- The number of inputs and outputs of a shape. -/
def fan (s : Shape) : Nat := s.headD 1 + (s.drop 1).headD 1

theorem fan_wholes (s : Shape) :
    s.wholes.headD 1 + (s.wholes.drop 1).headD 1 = (fan s : Int) := by
  rcases s with _ | ⟨d, _ | ⟨e, rest⟩⟩ <;> rfl

theorem inputs_wholes (s : Shape) : max (s.wholes.headD 1) 1 = (max (s.headD 1) 1 : Nat) := by
  have hhead : s.wholes.headD 1 = (s.headD 1 : Nat) := by
    cases s <;> rfl
  rw [hhead, Nat.cast_max, Nat.cast_one]

/-- Where eight-byte floats can be addressed, both numbers are within eight bytes. -/
theorem inputs_outputs_lt (h : s.addressable Dtype.float64.itemSize = true) :
    s.headD 1 < 2 ^ 63 ∧ (s.drop 1).headD 1 < 2 ^ 63 := by
  have hfits := Shape.Fits.of_addressable (by decide) h
  rcases s with _ | ⟨d, _ | ⟨e, rest⟩⟩
  · decide
  · exact ⟨hfits.dimension_lt List.mem_cons_self, Nat.one_lt_two_pow (by decide)⟩
  · exact ⟨hfits.dimension_lt List.mem_cons_self,
      hfits.dimension_lt (List.mem_cons_of_mem _ List.mem_cons_self)⟩

theorem gap_xavier_eq_none_iff : xavier.gap s = none ↔ fan s ≠ 0 := by
  rcases s with _ | ⟨_ | d, _ | ⟨_ | e, rest⟩⟩ <;> simp [gap, fan]

/-! ## How a weight begins -/

theorem succeeds_initial (strategy : Strategy)
    (hshape : s.addressable (strategy.itemSize d) = true) (hgap : strategy.gap s = none)
    (hscale : scale.IsNumber) (hd : Dtype.ofValue dtype = .ok d) :
    Succeeds (fun _ => True) (strategy.initial s.wholes scale dtype) (Begun s d) := by
  cases strategy with
  | zeros => exact succeeds_ofExcept (exists_filled (fun _ _ => ⟨rfl, rfl⟩) hd hshape)
  | ones => exact succeeds_ofExcept (exists_filled (fun _ _ => ⟨rfl, rfl⟩) hd hshape)
  | random =>
    obtain ⟨two, htwo⟩ := exists_toFloat (n := 2) (by decide)
    refine succeeds_bind (succeeds_draw Draws.even hshape) fun t ht => ?_
    refine succeeds_bind (succeeds_ofExcept (Tensor.exists_combineScalar .subtract ht.floats rfl))
      fun moved hmoved => ?_
    refine succeeds_bind
      (succeeds_ofExcept (Tensor.exists_combineScalar .multiply hmoved.floats htwo))
      fun doubled hdoubled => ?_
    refine succeeds_bind
      (succeeds_ofExcept (Tensor.exists_combineSingle .multiply hdoubled.floats hscale))
      fun scaled hscaled => ?_
    exact succeeds_cast hd hscaled
  | normal =>
    have hdims : s.wholes ≠ [] := by
      intro hdims
      obtain rfl : s = [] := List.map_eq_nil_iff.mp hdims
      cases hgap
    refine succeeds_bind (succeeds_draw Draws.bell hshape) fun t ht => ?_
    refine succeeds_bind
      (succeeds_ofExcept (Tensor.exists_combineSingle .multiply ht.floats hscale))
      fun scaled hscaled => ?_
    simp only [if_neg hdims]
    exact succeeds_cast hd hscaled
  | xavier =>
    obtain ⟨hinputs, houtputs⟩ := inputs_outputs_lt hshape
    obtain ⟨x, hx⟩ := exists_deviation (gap_xavier_eq_none_iff.mp hgap) (by rw [fan]; omega)
    rw [← fan_wholes] at hx
    exact succeeds_bind (P := fun _ => True) (succeeds_ofExcept ⟨x, hx, trivial⟩)
      fun std _ => succeeds_scaledDraw hshape std hd
  | he =>
    obtain ⟨hinputs, -⟩ := inputs_outputs_lt hshape
    obtain ⟨x, hx⟩ := exists_deviation (n := max (s.headD 1) 1) (by omega) (by omega)
    rw [← inputs_wholes] at hx
    exact succeeds_bind (P := fun _ => True) (succeeds_ofExcept ⟨x, hx, trivial⟩)
      fun std _ => succeeds_scaledDraw hshape std hd

theorem fails_initial (strategy : Strategy) {fault : Fault} (hgap : strategy.gap s = some fault)
    (hscale : scale.IsNumber) :
    Fails (fun _ => True) (strategy.initial s.wholes scale dtype) fault := by
  cases strategy with
  | normal =>
    obtain rfl : s = [] := by
      rcases s with _ | ⟨d, rest⟩
      · rfl
      · cases hgap
    obtain rfl := Option.some.inj hgap
    refine fails_bind (succeeds_draw Draws.bell (s := []) (by decide)) fun t ht => ?_
    refine fails_bind (succeeds_ofExcept (Tensor.exists_combineSingle .multiply ht.floats hscale))
      fun scaled hscaled => ?_
    exact fun k _ => ⟨k, rfl, trivial⟩
  | xavier =>
    obtain ⟨rest, rfl⟩ : ∃ rest, s = 0 :: 0 :: rest := by
      rcases s with _ | ⟨_ | d, _ | ⟨_ | e, rest⟩⟩
      case cons.zero.cons.zero => exact ⟨rest, rfl⟩
      all_goals cases hgap
    obtain rfl := Option.some.inj hgap
    exact fails_bind_left (fails_ofExcept rfl)
  | zeros | ones | random | he => cases hgap

theorem keeps_draw_addressable (sequence : Draws → Nat → Dtype.float64.Cell) :
    Keeps (fun _ => True) (Draws.draw sequence s.wholes)
      fun _ => s.addressable Dtype.float64.itemSize = true := by
  refine keeps_bind (keeps_ofExcept fun _ h => h) fun dims hdims => ?_
  refine keeps_bind (keeps_ofExcept fun _ h => h) fun shape hshape => ?_
  rw [Shape.dimensions_int hdims] at hshape
  exact fun k _ => ⟨trivial, fun _ _ => Shape.addressable_of_settled hshape⟩

theorem keeps_filled_addressable {make : Dtype → Shape → Tensor}
    (hd : Dtype.ofValue dtype = .ok d) :
    Keeps (fun _ : Draws => True) (Step.ofExcept (Tensor.filled make s.wholes dtype))
      fun _ => s.addressable d.itemSize = true := by
  refine keeps_ofExcept fun t ht => ?_
  obtain ⟨dims, hdims, ht⟩ := exists_of_bind_eq_ok ht
  rw [Shape.dimensions_int hdims, hd, ok_bind] at ht
  obtain ⟨shape, hshape, -⟩ := exists_of_bind_eq_ok ht
  exact Shape.addressable_of_settled hshape

/-- A weight that begins has a shape that can be addressed. -/
theorem keeps_addressable (strategy : Strategy) (hd : Dtype.ofValue dtype = .ok d) :
    Keeps (fun _ => True) (strategy.initial s.wholes scale dtype)
      fun _ => s.addressable (strategy.itemSize d) = true := by
  cases strategy with
  | zeros => exact keeps_filled_addressable hd
  | ones => exact keeps_filled_addressable hd
  | random => exact keeps_bind (keeps_draw_addressable _) fun _ ht _ _ => ⟨trivial, fun _ _ => ht⟩
  | normal => exact keeps_bind (keeps_draw_addressable _) fun _ ht _ _ => ⟨trivial, fun _ _ => ht⟩
  | xavier =>
    refine keeps_bind (keeps_ofExcept fun _ _ => trivial) fun std _ => ?_
    exact keeps_bind (keeps_draw_addressable _) fun _ ht _ _ => ⟨trivial, fun _ _ => ht⟩
  | he =>
    refine keeps_bind (keeps_ofExcept fun _ _ => trivial) fun std _ => ?_
    exact keeps_bind (keeps_draw_addressable _) fun _ ht _ _ => ⟨trivial, fun _ _ => ht⟩

theorem initialFor_name (strategy : Strategy) (s : Shape) (scale dtype : Value) :
    initialFor (.tuple s.values) (.text strategy.name) scale dtype =
      strategy.initial s.wholes scale dtype := by
  have hdims : (Value.tuple s.values).items >>= (fun vs => vs.mapM Value.toInt) = .ok s.wholes :=
    dimensions_values s
  have hname : ofValue? (.text strategy.name) = some strategy := by
    cases strategy <;> decide
  rw [initialFor, hdims, hname]
  rfl

/-- A weight of the shape and the element type begins exactly if its shape can be addressed and the
strategy has no gap there, whatever is drawn.  Element types are truth values, integers, and floats
of half, single and double precision; weights of long floats are left out. -/
theorem begins_iff (strategy : Strategy) (s : Shape) (hscale : scale.IsNumber)
    (hd : Dtype.ofValue dtype = .ok d) (k : Draws) :
    (∃ t k', (initialFor (.tuple s.values) (.text strategy.name) scale dtype).runFrom k =
        (.ok t, k') ∧ Begun s d t) ↔
      s.addressable (strategy.itemSize d) = true ∧ strategy.gap s = none := by
  rw [initialFor_name]
  constructor
  · rintro ⟨t, k', hrun, -⟩
    constructor
    · exact (keeps_addressable strategy hd k trivial).2 t (by rw [hrun])
    · rcases hgap : strategy.gap s with _ | fault
      · rfl
      · have hfails : Fails (fun _ => True) (strategy.initial s.wholes scale dtype) fault :=
          fails_initial strategy hgap hscale
        obtain ⟨l, hfault, -⟩ := hfails k trivial
        rw [hrun] at hfault
        cases congrArg Prod.fst hfault
  · rintro ⟨hshape, hgap⟩
    obtain ⟨t, k', hrun, -, ht⟩ := succeeds_initial strategy hshape hgap hscale hd k trivial
    exact ⟨t, k', hrun, ht⟩

theorem begins_without_inputs :
    ∃ t k', (initialFor (.tuple [.int 0, .int 3]) (.text "xavier") (.float 0.01)
      (.text "float32")).runFrom default = (.ok t, k') ∧ Begun [0, 3] .float32 t := by
  have hd : Dtype.ofValue (.text "float32") = .ok .float32 := rfl
  exact (begins_iff xavier [0, 3] ⟨.float 0.01, 0.01, rfl, rfl⟩ hd default).mpr ⟨by decide, rfl⟩

/-- Both gaps are met by shapes that can be addressed. -/
theorem faults_of_gaps :
    ((initialFor (.tuple [.int 0, .int 0]) (.text "xavier") (.float 0.01)
      (.text "float32")).runFrom default).1 = .error .zeroDivisor ∧
    ((initialFor (.tuple []) (.text "normal") (.float 0.01)
      (.text "float32")).runFrom default).1 = .error .missingPart := by
  constructor
  · rfl
  · rfl

end Strategy

end DataParallel

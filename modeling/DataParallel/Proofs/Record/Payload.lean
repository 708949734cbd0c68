import DataParallel.Record.Reader
import Mathlib.Algebra.Ring.Int.Defs

/-!
# Headers and payloads of arrays that exist

The dimensions of an array that can be addressed are small enough for every calculation that a
reader does with them: their product does not wrap around, it is the number of items, and the
payload takes the shape that the header names.
-/

namespace DataParallel

/-! ## Item types -/

namespace ItemType

/-- Truth values, integers and floats of up to sixteen bytes, in either order of their bytes where
there are several. -/
inductive Numeric : ItemType → Prop
  | number (d : Dtype) (ordered : d.bigEndian = true → d.itemSize ≠ 1) : Numeric (.number d)
  | longFloat (bigEndian : Bool) : Numeric (marked bigEndian "f16" 16)

theorem Numeric.size_pos {item : ItemType} (h : item.Numeric) : 0 < item.size := by
  cases h with
  | number d _ => exact d.element.size_pos
  | longFloat _ => exact Nat.succ_pos 15

theorem Numeric.code_le {item : ItemType} (h : item.Numeric) : item.code.utf8ByteSize ≤ 4 := by
  cases h with
  | number d _ =>
    rcases d with ⟨t, b⟩
    rcases t with _ | (_ | _ | _ | _) | (_ | _ | _ | _) | (_ | _ | _) <;> rcases b with _ | _ <;>
      decide +kernel
  | longFloat bigEndian => cases bigEndian <;> decide +kernel

/-- A numeric type is read back from its written form. -/
theorem Numeric.ofName_code {item : ItemType} (h : item.Numeric) : ofName item.code = .ok item := by
  cases h with
  | number d hordered =>
    have hsingle : ItemFormat.isList d.code.toList = false := by
      rcases d with ⟨t, b⟩
      rcases t with _ | (_ | _ | _ | _) | (_ | _ | _ | _) | (_ | _ | _) <;> rcases b with _ | _ <;>
        decide +kernel
    have hcode : ofCode? d.code.toList = some (.number d) := by
      unfold ofCode?
      simp only [String.ofList_toList, Dtype.ofName?_code d hordered]
      rfl
    show ofName d.code = _
    simp only [ofName, hsingle, ItemFormat.single, hcode, Bool.not_false, if_true]
    rfl
  | longFloat bigEndian => cases bigEndian <;> rfl

end ItemType

/-! ## Dimensions -/

namespace Shape

theorem size_filter_pos (s : Shape) : 0 < size (s.filter (· != 0)) := by
  induction s with
  | nil => exact Nat.one_pos
  | cons d rest ih =>
    by_cases hd : d = 0
    · simpa [hd] using ih
    · simpa [hd, size] using Nat.mul_pos (Nat.pos_of_ne_zero hd) ih

theorem le_size_filter {s : Shape} {d : Nat} (hd : d ∈ s) : d ≤ size (s.filter (· != 0)) := by
  induction s with
  | nil => cases hd
  | cons e rest ih =>
    by_cases he : e = 0
    · rcases List.mem_cons.1 hd with rfl | hd
      · omega
      · simpa [he] using ih hd
    · have hpos := size_filter_pos rest
      have hcons : size ((e :: rest).filter (· != 0)) = e * size (rest.filter (· != 0)) := by
        simp [he, size]
      rw [hcons]
      rcases List.mem_cons.1 hd with rfl | hd
      · exact Nat.le_mul_of_pos_right d hpos
      · exact Nat.le_trans (ih hd) (Nat.le_mul_of_pos_left _ (Nat.pos_of_ne_zero he))

theorem size_le_size_filter (s : Shape) : size s ≤ size (s.filter (· != 0)) := by
  induction s with
  | nil => exact Nat.le_refl _
  | cons d rest ih =>
    by_cases hd : d = 0
    · simp [hd, size]
    · simpa [hd, size] using Nat.mul_le_mul_left d ih

/-- What an array that can be addressed fulfils: its dimensions, their number and its bytes stay
within eight bytes. -/
structure Fits (itemSize : Nat) (s : Shape) : Prop where
  rank : s.length ≤ maxRank
  product : size (s.filter (· != 0)) < 2 ^ 63
  bytes : size s * itemSize < 2 ^ 63

theorem addressable_iff {itemSize : Nat} {s : Shape} :
    addressable itemSize s = true ↔
      s.length ≤ maxRank ∧ itemSize * size (s.filter (· != 0)) < maxBytes := by
  simp [addressable]

theorem Fits.of_addressable {itemSize : Nat} {s : Shape} (hpos : 0 < itemSize)
    (h : addressable itemSize s = true) : s.Fits itemSize where
  rank := (addressable_iff.1 h).1
  product := Nat.lt_of_le_of_lt (Nat.le_mul_of_pos_left _ hpos) (addressable_iff.1 h).2
  bytes := by
    rw [Nat.mul_comm]
    exact Nat.lt_of_le_of_lt (Nat.mul_le_mul_left _ (size_le_size_filter s)) (addressable_iff.1 h).2

theorem Fits.dimension_lt {itemSize : Nat} {s : Shape} (h : s.Fits itemSize)
    {d : Nat} (hd : d ∈ s) : d < 2 ^ 63 :=
  Nat.lt_of_le_of_lt (le_size_filter hd) h.product

/-- The dimensions of a shape as whole numbers. -/
def wholes (s : Shape) : List Int := s.map fun (d : Nat) => (d : Int)

/-- The dimensions of a shape as a header lists them. -/
def values (s : Shape) : List Value := s.map fun (d : Nat) => .int d

theorem values_eq (s : Shape) : s.values = s.wholes.map Value.int := by
  rw [values, wholes, List.map_map]
  rfl

theorem filter_wholes (s : Shape) : s.wholes.filter (0 ≤ ·) = s.wholes :=
  List.filter_eq_self.mpr (by simp [wholes])

theorem map_wholes {f : Int → Nat} (hf : ∀ n : Nat, f n = n) (s : Shape) : s.wholes.map f = s := by
  rw [wholes, List.map_map]
  exact List.map_id'' hf s

theorem toNat_wholes (s : Shape) : s.wholes.map Int.toNat = s :=
  s.map_wholes Int.toNat_natCast

theorem prod_wholes (s : Shape) : s.wholes.prod = (s.size : Int) := by
  induction s with
  | nil => rfl
  | cons d rest ih =>
    rw [wholes] at ih
    rw [wholes, List.map_cons, List.prod_cons, ih, size, Int.natCast_mul]

theorem dimensions_values {s : Shape} (hrank : s.length ≤ maxRank) (hlt : ∀ d ∈ s, d < 2 ^ 63) :
    dimensions s.values = .ok s.wholes := by
  have hlength : ¬ maxRank < s.values.length := by
    rw [values, List.length_map]
    omega
  rw [dimensions, if_neg hlength]
  clear hrank hlength
  induction s with
  | nil => rfl
  | cons d rest ih =>
    have hd : dimension (.int d) = .ok (d : Int) := by
      have := hlt d List.mem_cons_self
      rw [dimension, if_pos (by omega)]
    have hrest := ih fun e he => hlt e (List.mem_cons_of_mem _ he)
    rw [values] at hrest
    rw [values, List.map_cons, List.mapM_cons, hd, hrest]
    rfl

theorem resolve?_wholes {s : Shape} {count : Nat} (h : size s = count) :
    resolve? count s.wholes = some s := by
  simp only [resolve?, filter_wholes, toNat_wholes, Nat.sub_self, h, if_true]

end Shape

namespace Record

/-! ## The number of items -/

theorem wrap_eq_self {n : Int} (hlow : -(2 ^ 63 : Int) ≤ n) (hhigh : n < 2 ^ 63) : wrap n = n :=
  Int.bmod_eq_of_le (by omega) (by omega)

/-- Wherever a product wraps around, it comes out as the whole product wrapped around once. -/
theorem foldl_wrap (ns : List Int) (p : Int) :
    ns.foldl (fun product d => wrap (product * d)) (wrap p) = wrap (p * ns.prod) := by
  induction ns generalizing p with
  | nil => simp
  | cons d rest ih =>
    have hstep : wrap (wrap p * d) = wrap (p * d) := Int.bmod_mul_bmod
    rw [List.foldl_cons, hstep, ih, List.prod_cons, Int.mul_assoc]

theorem commonShape_ints (ns : List Int) : Tensor.commonShape (ns.map Value.int) = .ok [] := by
  induction ns with
  | nil => rfl
  | cons d rest ih =>
    cases rest with
    | nil => rfl
    | cons e rest =>
      have hothers : Tensor.commonShape (Value.int e :: rest.map Value.int) = .ok [] := ih
      have hfirst : Tensor.literalShape (.int d) = .ok [] := rfl
      show Tensor.commonShape (Value.int d :: Value.int e :: rest.map Value.int) = _
      simp only [Tensor.commonShape, hfirst, hothers, ok_bind, if_true]
      rfl

theorem leavesOf_ints (ns : List Int) : Tensor.leavesOf (ns.map Value.int) = ns.map Value.int := by
  induction ns with
  | nil => rfl
  | cons d rest ih => exact congrArg (Value.int d :: ·) ih

theorem mapM_toInt_ints (ns : List Int) : (ns.map Value.int).mapM Value.toInt = .ok ns := by
  induction ns with
  | nil => rfl
  | cons d rest ih =>
    rw [List.map_cons, List.mapM_cons, ih]
    rfl

theorem mapM_toInt_values (s : Shape) : s.values.mapM Value.toInt = .ok s.wholes := by
  rw [s.values_eq, mapM_toInt_ints]

theorem factors_ints {ns : List Int} (h : ∀ n ∈ ns, -(2 ^ 63 : Int) ≤ n ∧ n < 2 ^ 63) :
    factors (ns.map Value.int) = .ok ns := by
  have hscalar : (ns.map Value.int).any (fun v => v.scalar?.isNone && !isText v) = false := by
    simp [Value.scalar?]
  have hmixed : isMixedText (ns.map Value.int) = false := by
    simp [isMixedText, isCharacters]
  have htext : (ns.map Value.int).any isText = false := by
    simp [isText]
  have hhuge : (ns.map Value.int).any isHuge = false := by
    simp only [List.any_map, List.any_eq_false, Function.comp_apply, isHuge, decide_eq_true_eq]
    intro n hn
    have hlt := (h n hn).2
    omega
  have hfloat : needsFloat (ns.map Value.int) = false := by
    rw [needsFloat, hhuge]
    simp
  have hwrap : ns.map wrap = ns.map id :=
    List.map_congr_left fun n hn => wrap_eq_self (h n hn).1 (h n hn).2
  rw [List.map_id] at hwrap
  simp only [factors, hscalar, hmixed, htext, hfloat, Bool.false_eq_true, if_false,
    mapM_toInt_ints]
  exact congrArg Except.ok hwrap

/-- The number of items that a header implies is the product of its dimensions, wrapped around. -/
theorem impliedCount_ints {ns : List Int} (h : ∀ n ∈ ns, -(2 ^ 63 : Int) ≤ n ∧ n < 2 ^ 63) :
    impliedCount (ns.map Value.int) = .ok (wrap ns.prod) := by
  have hliteral : Tensor.literalShape (.list (ns.map Value.int)) = .ok [ns.length] := by
    rw [Tensor.literalShape, commonShape_ints]
    show Except.ok [(ns.map Value.int).length] = _
    rw [List.length_map]
  have hproduct : ns.foldl (fun product d => wrap (product * d)) 1 = wrap ns.prod := by
    have hfold := foldl_wrap ns 1
    rwa [wrap_eq_self (by decide) (by decide), Int.one_mul] at hfold
  have hrank : ¬ Shape.maxRank < 1 := by decide
  simp only [impliedCount, hliteral, leavesOf_ints, factors_ints h, ok_bind, List.length_singleton,
    if_neg hrank]
  exact congrArg Except.ok hproduct

/-- The product of the dimensions of an array that exists does not wrap around. -/
theorem impliedCount_values {itemSize : Nat} {s : Shape} (h : s.Fits itemSize) :
    impliedCount s.values = .ok (s.size : Int) := by
  have hlt : s.size < 2 ^ 63 := Nat.lt_of_le_of_lt s.size_le_size_filter h.product
  rw [s.values_eq, impliedCount_ints, s.prod_wholes, wrap_eq_self (by omega) (by omega)]
  intro n hn
  obtain ⟨d, hd, rfl⟩ := List.mem_map.mp hn
  have hdimension := h.dimension_lt hd
  omega

/-! ## The contents -/

theorem reshaped_wholes {itemSize count : Nat} {s : Shape} (hcount : s.size = count)
    (h : Shape.addressable itemSize s = true) :
    Tensor.reshaped itemSize count s.wholes = .ok s := by
  simp only [Tensor.reshaped, Shape.resolve?_wholes hcount, h, if_true]

theorem assemble_number {d : Dtype} {s : Shape} {payload : List UInt8}
    (haddressable : Shape.addressable d.itemSize s = true)
    (hdimensions : Shape.dimensions s.values = .ok s.wholes)
    (hpayload : payload.length = s.size * d.itemSize) :
    ∃ c, assemble (.number d) s.values payload = .ok c ∧ c.body = ⟨.number d, s, payload⟩ := by
  have hpos : 0 < d.itemSize := d.element.size_pos
  have hcount : payload.length / d.itemSize * 1 = s.size := by
    rw [hpayload, Nat.mul_div_cancel _ hpos, Nat.mul_one]
  have hguard : ¬ (d.itemSize = 0 || !ItemType.readable (.number d)) = true := by
    simp [ItemType.readable, Nat.ne_of_gt hpos]
  have hlength : payload.length = Shape.size [s.size] * d.itemSize := by
    rw [hpayload, Shape.size, Shape.size, Nat.mul_one]
  obtain ⟨flat, hflat⟩ : ∃ flat, Tensor.ofBytes? d [s.size] payload = some flat := by
    simp [Tensor.ofBytes?, hlength]
  obtain ⟨hdtype, hshape, hbytes⟩ := Tensor.bytes_of_ofBytes? hflat
  have hsize : flat.size = s.size := by
    rw [Tensor.size, hshape, Shape.size, Shape.size, Nat.mul_one]
  have hreshape : flat.reshape s.wholes = .ok (flat.withShape s) := by
    rw [Tensor.reshape, reshaped_wholes hsize.symm (hdtype ▸ haddressable)]
    rfl
  refine ⟨.tensor (flat.withShape s), ?_, ?_⟩
  · simp only [assemble, ItemType.size, ItemType.innermost, hcount, hflat, hdimensions, hreshape,
      ok_bind]
    exact if_neg hguard
  · show Body.ofTensor (flat.withShape s) = _
    rw [Body.ofTensor, Tensor.dtype_withShape, Tensor.shape_withShape hsize,
      Tensor.bytes_withShape, hdtype, hbytes]

theorem assemble_stored {code : String} {size : Nat} {s : Shape} {payload : List UInt8}
    (hpos : 0 < size) (haddressable : Shape.addressable size s = true)
    (hdimensions : Shape.dimensions s.values = .ok s.wholes)
    (hpayload : payload.length = s.size * size) :
    ∃ c, assemble (.stored code size true) s.values payload = .ok c ∧
      c.body = ⟨.stored code size true, s, payload⟩ := by
  have hcount : payload.length / size * 1 = s.size := by
    rw [hpayload, Nat.mul_div_cancel _ hpos, Nat.mul_one]
  have hguard : ¬ (size = 0 || !ItemType.readable (.stored code size true)) = true := by
    simp [ItemType.readable, Nat.ne_of_gt hpos]
  refine ⟨.carried ⟨code, size, s, payload, hpayload⟩, ?_, rfl⟩
  simp only [assemble, ItemType.size, ItemType.innermost, ItemType.code, hcount, hdimensions,
    reshaped_wholes rfl haddressable, ok_bind]
  exact (if_neg hguard).trans (dif_pos hpayload)

/-- The payload takes the shape of the header, whatever type its items are of. -/
theorem assemble_values {item : ItemType} {s : Shape} {payload : List UInt8}
    (hitem : item.Numeric) (haddressable : Shape.addressable item.size s = true)
    (hpayload : payload.length = s.size * item.size) :
    ∃ c, assemble item s.values payload = .ok c ∧ c.body = ⟨item, s, payload⟩ := by
  have hs := Shape.Fits.of_addressable hitem.size_pos haddressable
  have hdimensions := Shape.dimensions_values hs.rank fun d hd => hs.dimension_lt hd
  cases hitem with
  | number d _ => exact assemble_number haddressable hdimensions hpayload
  | longFloat _ => exact assemble_stored (Nat.succ_pos 15) haddressable hdimensions hpayload

end Record

end DataParallel

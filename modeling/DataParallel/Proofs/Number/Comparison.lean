import Mathlib
import DataParallel.Bytes
import DataParallel.Number.Notation

/-!
# How floats compare

A float is compared by its sign, its exponent and its significand, and not-a-number compares with
nothing.  The value that is compared is the one that the bit pattern is decoded to, so the order of
floats can be told from their values.
-/

namespace DataParallel.Number

open Float.Model Float.Model.UnpackedFloat

/-! ## The fields of a pattern -/

/-- The sign of a value. -/
def signOf (negative : Bool) : Sign := if negative then .negative else .positive

/-- A value as it is compared. -/
def BinaryValue.unpacked : BinaryValue → UnpackedFloat
  | .nan => .notANumber
  | .infinite negative => .infinity (signOf negative)
  | .finite negative significand exponent =>
    if h : significand = 0 then .zero (signOf negative)
    else .finite (signOf negative) significand exponent (Nat.pos_of_ne_zero h)

section Fields

variable (b : BitVec 64)

theorem toNat_unpackMantissa :
    (@unpackMantissa .binary64 b).toNat = b.toNat % 2 ^ 52 := by
  simp [unpackMantissa]

theorem toNat_unpackExponent :
    (@unpackExponent .binary64 b).toNat = b.toNat / 2 ^ 52 % 2 ^ 11 := by
  simp [unpackExponent, Nat.shiftRight_eq_div_pow]

theorem toNat_unpackSign :
    (@unpackSign .binary64 b).toNat = b.toNat / 2 ^ 63 % 2 := by
  simp [unpackSign, Nat.shiftRight_eq_div_pow]

theorem ofBitVec_eq_signOf (v : BitVec 1) : Sign.ofBitVec v = signOf (v.toNat == 1) := by
  rcases BitVec.eq_zero_or_eq_one v with rfl | rfl <;> rfl

theorem ofBitVec_unpackSign :
    Sign.ofBitVec (@unpackSign .binary64 b) = signOf (b.toNat / 2 ^ 63 % 2 == 1) := by
  rw [ofBitVec_eq_signOf, toNat_unpackSign]

theorem toNat_implicit (m : BitVec 52) : (1#1 ++ m).toNat = 2 ^ 52 + m.toNat := by
  have hone : (1#1).toNat = 1 := rfl
  rw [BitVec.toNat_append, Nat.shiftLeft_eq, hone, Nat.mul_comm,
    ← Nat.two_pow_add_eq_or_of_lt m.isLt, Nat.mul_one]

/-- Both readings of a pattern see the same value. -/
theorem unpacked_decode :
    (BinaryFormat.binary64.decode b.toNat).unpacked = UnpackedFloat.unpack .binary64 b := by
  have hfractions : BinaryFormat.binary64.fractions = 2 ^ 52 := rfl
  have hbits : BinaryFormat.binary64.exponentBits = 11 := rfl
  have hmin : BinaryFormat.binary64.minExponent = -1074 := rfl
  have hbias : (Format.exponentBias .binary64 : Int) = 1023 := rfl
  have hplace : (2 : Nat) ^ 52 * 2 ^ 11 = 2 ^ 63 := rfl
  have hmax : @unpackExponent .binary64 b = -1#11 ↔
      (@unpackExponent .binary64 b).toNat = 2 ^ 11 - 1 := BitVec.toNat_inj.symm
  have hzero : @unpackExponent .binary64 b = 0#11 ↔
      (@unpackExponent .binary64 b).toNat = 0 := BitVec.toNat_inj.symm
  have hnone : @unpackMantissa .binary64 b = 0#52 ↔
      (@unpackMantissa .binary64 b).toNat = 0 := BitVec.toNat_inj.symm
  simp only [BinaryFormat.decode, hfractions, hbits, hmin, hplace, UnpackedFloat.unpack,
    ofBitVec_unpackSign, ← toNat_unpackMantissa, ← toNat_unpackExponent, hmax, hzero, hnone]
  split
  · split
    · rfl
    · rfl
  · split
    · split
      · next h => exact dif_pos h
      · next h =>
        rw [BinaryValue.unpacked, dif_neg h]
        congr 1
        omega
    · rw [BinaryValue.unpacked, dif_neg (by omega)]
      congr 1
      · exact (toNat_implicit _).symm
      · omega

end Fields

/-- What of a float is compared is the value of its pattern. -/
theorem unpack_toModel (x : Float) : x.toModel.unpack = (floatValue x).unpacked :=
  (unpacked_decode x.toBits.toBitVec).symm

/-! ## The order -/

theorem compare_finite_swap (e f : Int) (m n : Nat) :
    (compare e f).then (compare m n) = ((compare f e).then (compare n m)).swap := by
  rw [Ordering.swap_then, Int.compare_swap, Nat.compare_swap]

/-- Only two finite floats are compared by more than their kinds and signs. -/
theorem compare_swap (u v : UnpackedFloat) : u.compare v = (v.compare u).map Ordering.swap := by
  rcases u with s | _ | s | ⟨s, m, e, hm⟩ <;> rcases v with t | _ | t | ⟨t, n, f, hn⟩
  case finite.finite =>
    rcases s with _ | _ <;> rcases t with _ | _
    · exact congrArg (fun c => some (Ordering.swap c)) (compare_finite_swap e f m n)
    · rfl
    · rfl
    · exact congrArg some (compare_finite_swap e f m n)
  all_goals first | rfl | (cases s <;> rfl) | (cases t <;> rfl) | (cases s <;> cases t <;> rfl)

theorem lt_iff_compare {x y : Float} :
    x < y ↔ x.toModel.unpack.compare y.toModel.unpack = some .lt :=
  decide_eq_true_iff.trans beq_iff_eq

theorem le_iff_compare {x y : Float} :
    x ≤ y ↔ (x.toModel.unpack.compare y.toModel.unpack).any (·.isLE) = true :=
  decide_eq_true_iff

theorem not_lt_of_le {x y : Float} (h : x ≤ y) : ¬ y < x := by
  intro hlt
  rw [le_iff_compare, compare_swap, lt_iff_compare.mp hlt] at h
  cases h

theorem not_lt_of_lt {x y : Float} (h : x < y) : ¬ y < x := by
  intro hlt
  rw [lt_iff_compare, compare_swap, lt_iff_compare.mp hlt] at h
  cases h

theorem lt_zero_of_lt {x : Float} (h : x < -1) : x < 0 := by
  have hone : floatValue (-1) = .finite true (2 ^ 52) (-52) := by decide
  have hzero : floatValue 0 = .finite false 0 (-1074) := by decide
  rw [lt_iff_compare, unpack_toModel (-1), hone] at h
  rw [lt_iff_compare, unpack_toModel 0, hzero]
  generalize x.toModel.unpack = u at h ⊢
  rcases u with s | _ | s | ⟨s, m, e, hm⟩
  · cases s
    · rfl
    · cases h
  · cases h
  · cases h
  · cases s
    · rfl
    · cases h

end DataParallel.Number

import DataParallel.Proofs.Number.Comparison

/-!
# Whole numbers as floats

A whole number becomes the float nearest to it unless that is beyond the range, and a number that
is not below zero becomes a float that is not.
-/

namespace DataParallel.Number

open Float.Model Float.Model.UnpackedFloat

/-! ## Signs -/

/-- The sign bit with which a float is written. -/
def signBit : UnpackedFloat → BitVec 1
  | .notANumber => 0#1
  | .infinity s | .zero s | .finite s .. => s.toBitVec

theorem signBit_unpack {b : BitVec 64} (h : @unpackSign .binary64 b = 0#1) :
    signBit (UnpackedFloat.unpack .binary64 b) = 0#1 := by
  have hsign : Sign.ofBitVec (@unpackSign .binary64 b) = .positive := if_pos h
  simp only [UnpackedFloat.unpack, hsign]
  split
  · split <;> rfl
  · split
    · split <;> rfl
    · rfl

theorem unpackSign_pack {spec : Format} (u : UnpackedFloat) :
    unpackSign (UnpackedFloat.pack spec u) = signBit u := by
  rcases u with s | _ | s | ⟨s, m, e, hm⟩
  · exact unpackSign_packComponents ..
  · exact unpackSign_packComponents ..
  · exact unpackSign_packComponents ..
  · rw [UnpackedFloat.pack]
    split
    · exact unpackSign_packComponents ..
    · split
      · exact unpackSign_packComponents ..
      · exact unpackSign_packComponents ..

theorem compare_zero_ne_lt {u : UnpackedFloat} (h : signBit u = 0#1) (s : Sign) :
    u.compare (.zero s) ≠ some .lt := by
  rcases u with t | _ | t | ⟨t, m, e, hm⟩
  · cases t <;> cases h
    exact nofun
  · exact nofun
  · exact nofun
  · cases t <;> cases h
    exact nofun

/-- A float made of a pattern without a sign is not below zero. -/
theorem not_ofBits_lt_zero {bits : Nat} (h : bits < 2 ^ 63) :
    ¬ Float.ofBits (UInt64.ofNat bits) < 0 := by
  have hzero : floatValue 0 = .finite false 0 (-1074) := by decide
  have hpattern : @unpackSign .binary64 (UInt64.ofNat bits).toBitVec = 0#1 := by
    rw [← BitVec.toNat_inj, toNat_unpackSign]
    show bits % 2 ^ 64 / 2 ^ 63 % 2 = 0
    omega
  rw [lt_iff_compare, unpack_toModel 0, hzero]
  apply compare_zero_ne_lt
  apply signBit_unpack
  exact (unpackSign_pack _).trans (signBit_unpack hpattern)

/-! ## Whole numbers -/

theorem roundHalfEven_le {num den bound : Nat} (h : num < bound * den) :
    roundHalfEven num den ≤ bound := by
  have hlow : num / den < bound := Nat.div_lt_of_lt_mul (Nat.mul_comm bound den ▸ h)
  rw [roundHalfEven]
  split
  · exact hlow
  · exact Nat.le_of_lt hlow

theorem floorLog2_one {n : Nat} (h : n ≠ 0) : floorLog2 n 1 = n.log2 := by
  have hguess : (n.log2 : Int) - Nat.log2 1 = n.log2 := Int.sub_zero _
  have hup : (-(n.log2 : Int)).toNat = 0 := by omega
  simp only [floorLog2, scaleDown, hguess, Int.toNat_natCast, hup, Nat.pow_zero, Nat.mul_one,
    Nat.one_mul]
  exact if_pos (Nat.log2_self_le h)

/-- The leading digit of a whole number is moved to the place behind 52 others. -/
theorem roundHalfEven_scaleDown_le (n : Nat) :
    roundHalfEven (scaleDown 2 n 1 (n.log2 - 52)).1 (scaleDown 2 n 1 (n.log2 - 52)).2 ≤
      2 ^ 53 := by
  apply roundHalfEven_le
  have hlt : n < 2 ^ (n.log2 + 1) := Nat.lt_log2_self
  have hpow : n.log2 + 1 + (-((n.log2 : Int) - 52)).toNat = 53 + ((n.log2 : Int) - 52).toNat := by
    omega
  calc n * 2 ^ (-((n.log2 : Int) - 52)).toNat
      < 2 ^ (n.log2 + 1) * 2 ^ (-((n.log2 : Int) - 52)).toNat :=
        Nat.mul_lt_mul_of_pos_right hlt (Nat.two_pow_pos _)
    _ = 2 ^ 53 * (1 * 2 ^ ((n.log2 : Int) - 52).toNat) := by
        rw [← Nat.pow_add, hpow, Nat.pow_add, Nat.one_mul]

/-- The pattern of a whole number: its exponent and its first 53 digits. -/
theorem ofRatio_one {n : Nat} (h : n ≠ 0) : BinaryFormat.binary64.ofRatio false n 1 =
    min (((n.log2 : Int) - 52 - -1074).toNat * 2 ^ 52 +
      roundHalfEven (scaleDown 2 n 1 (n.log2 - 52)).1 (scaleDown 2 n 1 (n.log2 - 52)).2)
      BinaryFormat.binary64.infinity := by
  have hfractions : BinaryFormat.binary64.fractions = 2 ^ 52 := rfl
  have hdigits : BinaryFormat.binary64.precision - 1 = 52 := rfl
  have hmin : BinaryFormat.binary64.minExponent = -1074 := rfl
  have hplace : max (floorLog2 n 1 - (52 : Nat)) (-1074) = (n.log2 : Int) - 52 := by
    rw [floorLog2_one h]
    omega
  rw [BinaryFormat.ofRatio, if_neg h, hdigits, hmin, hplace, hfractions]
  simp only [BinaryFormat.signed, Bool.false_eq_true, if_false]

/-- A whole number with fewer than 1024 binary digits is rounded within the range. -/
theorem ofRatio_lt_infinity {n : Nat} (h : n < 2 ^ 1023) :
    BinaryFormat.binary64.ofRatio false n 1 < BinaryFormat.binary64.infinity := by
  have hinfinity : BinaryFormat.binary64.infinity = 2047 * 2 ^ 52 := rfl
  by_cases hn : n = 0
  · rw [BinaryFormat.ofRatio, if_pos hn, hinfinity]
    decide
  · have hlog : n.log2 < 1023 := (Nat.log2_lt hn).mpr h
    have hrounded := roundHalfEven_scaleDown_le n
    rw [ofRatio_one hn, hinfinity]
    generalize roundHalfEven _ _ = rounded at hrounded
    clear h
    omega

theorem ofInt_natCast (n : Nat) :
    BinaryFormat.binary64.ofInt n = BinaryFormat.binary64.ofRatio false n 1 := by
  have hsign : decide ((n : Int) < 0) = false := decide_eq_false (by omega)
  rw [BinaryFormat.ofInt, hsign, Int.natAbs_natCast]

/-- A whole number with fewer than 1024 binary digits is a float that is not below zero. -/
theorem exists_floatOfInt? {n : Nat} (h : n < 2 ^ 1023) :
    ∃ x, floatOfInt? n = some x ∧ ¬ x < 0 := by
  have hlt := ofRatio_lt_infinity h
  have hinfinity : BinaryFormat.binary64.infinity = 2047 * 2 ^ 52 := rfl
  rw [floatOfInt?, ofInt_natCast]
  generalize BinaryFormat.binary64.ofRatio false n 1 = bits at hlt
  rw [hinfinity] at hlt ⊢
  refine ⟨Float.ofBits (UInt64.ofNat bits), if_neg ?_, not_ofBits_lt_zero ?_⟩
  · omega
  · omega

end DataParallel.Number

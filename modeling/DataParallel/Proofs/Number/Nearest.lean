import DataParallel.Proofs.Number.Equality
import Mathlib

/-!
# The nearest pattern

The pattern nearest to a quotient, and the one nearest to a decimal, depend on the rational number
alone and not on how it is given.  The pattern nearest to the value of a float is the pattern of
the float.
-/

namespace DataParallel.Number

/-! ## Quotients -/

theorem roundHalfEven_mul_right (n d : Nat) {k : Nat} (hk : 0 < k) :
    roundHalfEven (n * k) (d * k) = roundHalfEven n d := by
  have hlt : d * k < 2 * (n % d * k) ↔ d < 2 * (n % d) := by
    rw [← Nat.mul_assoc]
    exact Nat.mul_lt_mul_right hk
  have heq : (2 * (n % d * k) == d * k) = (2 * (n % d) == d) := by
    rw [← Nat.mul_assoc, Bool.eq_iff_iff, beq_iff_eq, beq_iff_eq]
    exact Nat.mul_left_inj (Nat.ne_of_gt hk)
  rw [roundHalfEven, roundHalfEven, Nat.mul_div_mul_right _ _ hk, Nat.mul_mod_mul_right]
  simp only [hlt, heq]

theorem roundHalfEven_congr {n d n' d' : Nat} (hd : d ≠ 0) (hd' : d' ≠ 0)
    (h : (n / d : ℚ) = n' / d') : roundHalfEven n d = roundHalfEven n' d' := by
  have hcross : n * d' = n' * d := by
    rw [div_eq_div_iff (Nat.cast_ne_zero.mpr hd) (Nat.cast_ne_zero.mpr hd')] at h
    exact_mod_cast h
  calc roundHalfEven n d
      = roundHalfEven (n * d') (d * d') := (roundHalfEven_mul_right n d (by omega)).symm
    _ = roundHalfEven (n' * d) (d' * d) := by rw [hcross, Nat.mul_comm d d']
    _ = roundHalfEven n' d' := roundHalfEven_mul_right n' d' (by omega)

theorem roundHalfEven_one (n : Nat) : roundHalfEven n 1 = n := by
  simp [roundHalfEven, Nat.mod_one]

theorem scaleDown_ne_zero {base den : Nat} (hbase : base ≠ 0) (hden : den ≠ 0) (num : Nat)
    (exponent : Int) : (scaleDown base num den exponent).2 ≠ 0 :=
  Nat.mul_ne_zero hden (pow_ne_zero _ hbase)

theorem zpow_eq_div {base : Nat} (hbase : base ≠ 0) (exponent : Int) :
    (base : ℚ) ^ exponent = base ^ exponent.toNat / base ^ (-exponent).toNat := by
  have hbase' : (base : ℚ) ≠ 0 := Nat.cast_ne_zero.mpr hbase
  rw [← zpow_natCast, ← zpow_natCast, ← zpow_sub₀ hbase']
  congr 1
  omega

theorem mul_zpow_quotient {base : Nat} (hbase : base ≠ 0) (n : Nat) (exponent : Int) :
    ((n * base ^ exponent.toNat : Nat) / (base ^ (-exponent).toNat : Nat) : ℚ) =
      n * base ^ exponent := by
  rw [zpow_eq_div hbase, mul_div_assoc']
  push_cast
  rfl

theorem scaleDown_quotient {base : Nat} (hbase : base ≠ 0) (num den : Nat) (exponent : Int) :
    ((scaleDown base num den exponent).1 / (scaleDown base num den exponent).2 : ℚ) =
      num / den / base ^ exponent := by
  rw [scaleDown, zpow_eq_div hbase]
  push_cast
  rw [div_div_div_eq, mul_comm]

theorem log_bounds {n : Nat} (hn : n ≠ 0) :
    (2 : ℚ) ^ (n.log2 : Int) ≤ n ∧ (n : ℚ) < 2 ^ ((n.log2 : Int) + 1) := by
  have hlow : 2 ^ n.log2 ≤ n := Nat.log2_self_le hn
  have hhigh : n < 2 ^ (n.log2 + 1) := Nat.lt_log2_self
  exact ⟨by exact_mod_cast hlow, by exact_mod_cast hhigh⟩

/-- The power of two below a quotient. -/
theorem floorLog2_eq_log {num den : Nat} (hnum : num ≠ 0) (hden : den ≠ 0) :
    floorLog2 num den = Int.log 2 (num / den : ℚ) := by
  have hpos : (0 : ℚ) < den := Nat.cast_pos.mpr (Nat.pos_of_ne_zero hden)
  have hquotient : (0 : ℚ) < num / den := by positivity
  obtain ⟨hnlow, hnhigh⟩ := log_bounds hnum
  obtain ⟨hdlow, hdhigh⟩ := log_bounds hden
  generalize hguess : (num.log2 : Int) - den.log2 = guess
  have hlow : guess - 1 ≤ Int.log 2 (num / den : ℚ) := by
    rw [← Int.zpow_le_iff_le_log one_lt_two hquotient, le_div_iff₀ hpos]
    have hexponent : (guess - 1) + ((den.log2 : Int) + 1) = num.log2 := by omega
    calc ((2 : Nat) : ℚ) ^ (guess - 1) * den
        ≤ 2 ^ (guess - 1) * 2 ^ ((den.log2 : Int) + 1) := by
          push_cast
          gcongr
      _ = 2 ^ (num.log2 : Int) := by rw [← zpow_add₀ two_ne_zero, hexponent]
      _ ≤ num := hnlow
  have hhigh : Int.log 2 (num / den : ℚ) < guess + 1 := by
    rw [← Int.lt_zpow_iff_log_lt one_lt_two hquotient, div_lt_iff₀ hpos]
    have hexponent : (guess + 1) + (den.log2 : Int) = (num.log2 : Int) + 1 := by omega
    calc (num : ℚ) < 2 ^ ((num.log2 : Int) + 1) := hnhigh
      _ = 2 ^ (guess + 1) * 2 ^ (den.log2 : Int) := by rw [← zpow_add₀ two_ne_zero, hexponent]
      _ ≤ ((2 : Nat) : ℚ) ^ (guess + 1) * den := by
          push_cast
          gcongr
  have hfits : (scaleDown 2 num den guess).2 ≤ (scaleDown 2 num den guess).1 ↔
      guess ≤ Int.log 2 (num / den : ℚ) := by
    have hscaled : (0 : ℚ) < (scaleDown 2 num den guess).2 :=
      Nat.cast_pos.mpr (Nat.pos_of_ne_zero (scaleDown_ne_zero two_ne_zero hden _ _))
    rw [← Int.zpow_le_iff_le_log one_lt_two hquotient, ← Nat.cast_le (α := ℚ),
      ← one_le_div hscaled, scaleDown_quotient two_ne_zero, one_le_div (by positivity)]
  rw [floorLog2, hguess]
  dsimp only
  split
  · next h =>
    have := hfits.mp h
    omega
  · next h =>
    have := mt hfits.mpr h
    omega

namespace BinaryFormat

variable (f : BinaryFormat)

/-- The pattern nearest to a quotient depends on the number alone. -/
theorem ofRatio_congr (negative : Bool) {num den num' den' : Nat} (hden : den ≠ 0)
    (hden' : den' ≠ 0) (h : (num / den : ℚ) = num' / den') :
    f.ofRatio negative num den = f.ofRatio negative num' den' := by
  have hzero : num = 0 ↔ num' = 0 := by
    rw [← Nat.cast_eq_zero (R := ℚ), ← Nat.cast_eq_zero (R := ℚ) (n := num')]
    constructor
    · intro hnum
      rw [hnum, zero_div] at h
      exact (div_eq_zero_iff.mp h.symm).resolve_right (Nat.cast_ne_zero.mpr hden')
    · intro hnum
      rw [hnum, zero_div] at h
      exact (div_eq_zero_iff.mp h).resolve_right (Nat.cast_ne_zero.mpr hden)
  by_cases hnum : num = 0
  · rw [ofRatio, ofRatio, if_pos hnum, if_pos (hzero.mp hnum)]
  · have hnum' : num' ≠ 0 := mt hzero.mpr hnum
    have hfloor : floorLog2 num den = floorLog2 num' den' := by
      rw [floorLog2_eq_log hnum hden, floorLog2_eq_log hnum' hden', h]
    have hround : ∀ place,
        roundHalfEven (scaleDown 2 num den place).1 (scaleDown 2 num den place).2 =
          roundHalfEven (scaleDown 2 num' den' place).1 (scaleDown 2 num' den' place).2 := by
      intro place
      apply roundHalfEven_congr (scaleDown_ne_zero two_ne_zero hden _ _)
        (scaleDown_ne_zero two_ne_zero hden' _ _)
      rw [scaleDown_quotient two_ne_zero, scaleDown_quotient two_ne_zero, h]
    rw [ofRatio, ofRatio, if_neg hnum, if_neg hnum']
    simp only [hfloor, hround]

theorem ofRatio_signed (negative : Bool) (num den : Nat) :
    f.ofRatio negative num den = f.signed negative (f.ofRatio false num den) := by
  rw [ofRatio, ofRatio]
  split
  · rfl
  · rfl

/-! ## Decimals -/

theorem length_toDigits {n : Nat} (hn : n ≠ 0) :
    ((Nat.toDigits 10 n).length : Int) = Nat.log 10 n + 1 := by
  have hiff : ∀ k, 0 < k → ((Nat.toDigits 10 n).length ≤ k ↔ Nat.log 10 n < k) := by
    intro k hk
    rw [Nat.length_toDigits_le_iff (by decide) hk, Nat.log_lt_iff_lt_pow (by decide) hn]
  have hpos : 0 < (Nat.toDigits 10 n).length := Nat.length_toDigits_pos
  have hlow := (hiff _ hpos).mp (Nat.le_refl _)
  have hhigh := (hiff (Nat.log 10 n + 1) (by omega)).mpr (by omega)
  omega

/-- Where the leading digit of a decimal stands. -/
theorem leading_eq {digits : Nat} (hdigits : digits ≠ 0) (exponent : Int) :
    exponent + ((Nat.toDigits 10 digits).length : Int) =
      Int.log 10 (digits * 10 ^ exponent : ℚ) + 1 := by
  have hpos : (0 : ℚ) < digits := Nat.cast_pos.mpr (Nat.pos_of_ne_zero hdigits)
  have hvalue : (0 : ℚ) < digits * 10 ^ exponent := by positivity
  have hlog : Int.log 10 (digits : ℚ) = Nat.log 10 digits := Int.log_natCast 10 digits
  have hiff : ∀ x : Int, x ≤ Int.log 10 (digits * 10 ^ exponent : ℚ) ↔
      x - exponent ≤ Int.log 10 (digits : ℚ) := by
    intro x
    rw [← Int.zpow_le_iff_le_log (by decide) hvalue, ← Int.zpow_le_iff_le_log (by decide) hpos]
    push_cast
    rw [zpow_sub₀ (by norm_num), div_le_iff₀ (by positivity)]
  have hlow := (hiff _).mp (le_refl _)
  have hhigh := (hiff (Int.log 10 (digits : ℚ) + exponent)).mpr (by omega)
  rw [length_toDigits hdigits]
  omega

/-- A decimal as the quotient that is rounded for it. -/
theorem decimal_quotient (digits : Nat) (exponent : Int) :
    ((digits * 10 ^ exponent.toNat : Nat) / (10 ^ (-exponent).toNat : Nat) : ℚ) =
      digits * 10 ^ exponent := by
  exact_mod_cast mul_zpow_quotient (Nat.succ_ne_zero 9) digits exponent

/-- The pattern nearest to a decimal depends on the number alone. -/
theorem ofDecimal_congr (negative : Bool) {digits digits' : Nat} {exponent exponent' : Int}
    (h : (digits * 10 ^ exponent : ℚ) = digits' * 10 ^ exponent') :
    f.ofDecimal negative digits exponent = f.ofDecimal negative digits' exponent' := by
  have hpow : ∀ e : Int, (10 : ℚ) ^ e ≠ 0 := fun e => zpow_ne_zero _ (by norm_num)
  have hzero : digits = 0 ↔ digits' = 0 := by
    rw [← Nat.cast_eq_zero (R := ℚ), ← Nat.cast_eq_zero (R := ℚ) (n := digits'),
      ← mul_eq_zero_iff_right (hpow exponent), h, mul_eq_zero_iff_right (hpow exponent')]
  by_cases hdigits : digits = 0
  · rw [ofDecimal, ofDecimal, hzero.mp hdigits, hdigits]
    rfl
  · have hdigits' : digits' ≠ 0 := mt hzero.mpr hdigits
    have hratio : f.ofRatio negative (digits * 10 ^ exponent.toNat) (10 ^ (-exponent).toNat) =
        f.ofRatio negative (digits' * 10 ^ exponent'.toNat) (10 ^ (-exponent').toNat) := by
      apply f.ofRatio_congr negative (pow_ne_zero _ (by decide)) (pow_ne_zero _ (by decide))
      rw [decimal_quotient, decimal_quotient, h]
    rw [ofDecimal, ofDecimal, leading_eq hdigits, leading_eq hdigits', h, hratio]
    simp only [hdigits, hdigits']

theorem ofDecimal_signed (negative : Bool) (digits : Nat) (exponent : Int) :
    f.ofDecimal negative digits exponent =
      f.signed negative (f.ofDecimal false digits exponent) := by
  rw [ofDecimal, ofDecimal]
  split
  · rfl
  · split
    · rfl
    · exact f.ofRatio_signed negative _ _

/-- A decimal within the range is rounded as a quotient. -/
theorem ofDecimal_eq_ofRatio (negative : Bool) {digits num den : Nat} {exponent : Int}
    (hden : den ≠ 0) (h : (digits * 10 ^ exponent : ℚ) = num / den)
    (hlow : (10 : ℚ) ^ (-400 : Int) ≤ num / den) (hhigh : (num / den : ℚ) < 10 ^ (400 : Int)) :
    f.ofDecimal negative digits exponent = f.ofRatio negative num den := by
  have hpos : (0 : ℚ) < num / den := lt_of_lt_of_le (by positivity) hlow
  have hdigits : digits ≠ 0 := by
    rintro rfl
    rw [Nat.cast_zero, zero_mul] at h
    exact hpos.ne h
  have hlow' : -400 ≤ Int.log 10 (num / den : ℚ) :=
    (Int.zpow_le_iff_le_log (by decide) hpos).mp (by exact_mod_cast hlow)
  have hhigh' : Int.log 10 (num / den : ℚ) < 400 :=
    (Int.lt_zpow_iff_log_lt (by decide) hpos).mp (by exact_mod_cast hhigh)
  have hratio : f.ofRatio negative (digits * 10 ^ exponent.toNat) (10 ^ (-exponent).toNat) =
      f.ofRatio negative num den := by
    apply f.ofRatio_congr negative (pow_ne_zero _ (by decide)) hden
    rw [decimal_quotient, h]
  rw [ofDecimal, leading_eq hdigits, h, if_neg (by simp [hdigits]; omega), if_neg (by omega),
    hratio]

end BinaryFormat

/-! ## Floats -/

/-- The parts of a pattern that is decoded to a number. -/
theorem pattern_of_decode {b : Nat} (hb : b < 2 ^ 64) {negative : Bool} {m : Nat} {e : Int}
    (h : BinaryFormat.binary64.decode b = .finite negative m e) :
    b = BinaryFormat.binary64.signed negative ((e + finest).toNat * 2 ^ 52 + m) ∧
      (e + finest).toNat * 2 ^ 52 + m < BinaryFormat.binary64.infinity := by
  have hfractions : BinaryFormat.binary64.fractions = 2 ^ 52 := rfl
  have hmin : BinaryFormat.binary64.minExponent = -1074 := rfl
  have hinfinity : BinaryFormat.binary64.infinity = 2047 * 2 ^ 52 := rfl
  have hbits : BinaryFormat.binary64.exponentBits = 11 := rfl
  have hprecision : BinaryFormat.binary64.precision = 53 := rfl
  simp only [BinaryFormat.decode, hfractions, hmin, hbits] at h
  rw [hinfinity, finest]
  have hsigned : ∀ n, BinaryFormat.binary64.signed negative n =
      (if negative then 1 else 0) * 2 ^ 63 + n := by
    intro n
    cases negative <;> simp [BinaryFormat.signed, hbits, hprecision]
  have hnegative : (b / (2 ^ 52 * 2 ^ 11) % 2 == 1) = negative →
      b / 2 ^ 63 = if negative then 1 else 0 := by
    rintro rfl
    have : b / 2 ^ 63 < 2 := by omega
    split
    · next hone => simp at hone; omega
    · next hzero => simp at hzero; omega
  rw [hsigned]
  split at h
  · split at h <;> cases h
  · split at h
    · obtain ⟨hsign, rfl, rfl⟩ := BinaryValue.finite.inj h
      rw [← hnegative hsign]
      omega
    · obtain ⟨hsign, rfl, rfl⟩ := BinaryValue.finite.inj h
      rw [← hnegative hsign]
      omega

/-- The value of a float as a quotient. -/
theorem finite_quotient (m : Nat) (e : Int) :
    ((m * 2 ^ e.toNat : Nat) / (2 ^ (-e).toNat : Nat) : ℚ) = m * 2 ^ e := by
  exact_mod_cast mul_zpow_quotient (Nat.succ_ne_zero 1) m e

/-- The exponent of a float is that of its last place. -/
theorem Canonical.place {m : Nat} {e : Int} (h : Canonical m e) (hm : m ≠ 0) :
    max (Int.log 2 (m * 2 ^ e : ℚ) - 52) (-finest) = e := by
  have hpos : (0 : ℚ) < m * 2 ^ e :=
    mul_pos (Nat.cast_pos.mpr (Nat.pos_of_ne_zero hm)) (zpow_pos two_pos e)
  have hhigh : Int.log 2 (m * 2 ^ e : ℚ) < 53 + e := by
    rw [← Int.lt_zpow_iff_log_lt one_lt_two hpos, Nat.cast_two, zpow_add₀ two_ne_zero]
    have hlt : (m : ℚ) < 2 ^ (53 : Int) := by exact_mod_cast h.lt
    exact mul_lt_mul_of_pos_right hlt (zpow_pos two_pos e)
  rcases h.full with rfl | ⟨hfine, hfull⟩
  · omega
  · have hlow : 52 + e ≤ Int.log 2 (m * 2 ^ e : ℚ) := by
      rw [← Int.zpow_le_iff_le_log one_lt_two hpos, Nat.cast_two, zpow_add₀ two_ne_zero]
      have hle : (2 : ℚ) ^ (52 : Int) ≤ m := by exact_mod_cast hfull
      exact mul_le_mul_of_nonneg_right hle (zpow_pos two_pos e).le
    omega

/-- The pattern nearest to the value of a float is its own. -/
theorem ofRatio_of_decode {b : Nat} (hb : b < 2 ^ 64) {negative : Bool} {m : Nat} {e : Int}
    (h : BinaryFormat.binary64.decode b = .finite negative m e) :
    BinaryFormat.binary64.ofRatio negative (m * 2 ^ e.toNat) (2 ^ (-e).toNat) = b := by
  have hfractions : BinaryFormat.binary64.fractions = 2 ^ 52 := rfl
  have hmin : BinaryFormat.binary64.minExponent = -finest := rfl
  have hprecision : ((BinaryFormat.binary64.precision - 1 : Nat) : Int) = 52 := rfl
  have hden : 2 ^ (-e).toNat ≠ 0 := pow_ne_zero _ (by decide)
  have hcanonical := canonical_decode h
  obtain ⟨hpattern, hlt⟩ := pattern_of_decode hb h
  by_cases hm : m = 0
  · have he : (e + finest).toNat = 0 := by
      rcases hcanonical.full with rfl | ⟨-, hfull⟩
      · omega
      · omega
    rw [BinaryFormat.ofRatio, if_pos (by rw [hm, Nat.zero_mul]), hpattern, he, hm]
  · have hnum : m * 2 ^ e.toNat ≠ 0 := Nat.mul_ne_zero hm (pow_ne_zero _ (by decide))
    have hplace : max (floorLog2 (m * 2 ^ e.toNat) (2 ^ (-e).toNat) - 52) (-finest) = e := by
      rw [floorLog2_eq_log hnum hden, finite_quotient, hcanonical.place hm]
    have hround : roundHalfEven (scaleDown 2 (m * 2 ^ e.toNat) (2 ^ (-e).toNat) e).1
        (scaleDown 2 (m * 2 ^ e.toNat) (2 ^ (-e).toNat) e).2 = m := by
      rw [← roundHalfEven_one m]
      apply roundHalfEven_congr (scaleDown_ne_zero two_ne_zero hden _ _) one_ne_zero
      rw [roundHalfEven_one, scaleDown_quotient two_ne_zero, finite_quotient, Nat.cast_two,
        Nat.cast_one, div_one]
      exact mul_div_cancel_right₀ _ (zpow_ne_zero _ two_ne_zero)
    rw [BinaryFormat.ofRatio, if_neg hnum]
    simp only [hprecision, hmin, hplace, hround, hfractions, sub_neg_eq_add]
    rw [min_eq_left (Nat.le_of_lt hlt), ← hpattern]

end DataParallel.Number

import DataParallel.Proofs.Number.Nearest

/-!
# Shortest decimals round to their floats

Every decimal that the search accepts rounds to the pattern that is looked for, and the exact
expansion with which it ends does too.  Zeros that are moved into the exponent do not change the
number.  So the shortest decimal of a float rounds to the float.
-/

namespace DataParallel.Number

namespace Decimal

/-- The number that a decimal is. -/
def value (d : Decimal) : ℚ := d.digits * 10 ^ d.exponent

theorem value_dropZeros (fuel : Nat) (d : Decimal) : (dropZeros fuel d).value = d.value := by
  induction fuel generalizing d with
  | zero => rfl
  | succ fuel ih =>
    rw [dropZeros]
    split
    · next h =>
      have hdigits : (d.digits : ℚ) = (d.digits / 10 : Nat) * 10 := by
        have hmul : d.digits = d.digits / 10 * 10 := by omega
        exact_mod_cast hmul
      rw [ih, value, value, hdigits, zpow_add_one₀ (by norm_num)]
      ring
    · rfl

/-! ## The search -/

variable {f : BinaryFormat} {bits num den : Nat}

theorem reads_of_onGrid? {place : Int} {d : Decimal} (h : onGrid? f bits num den place = some d) :
    f.ofDecimal false d.digits d.exponent = bits := by
  simp only [onGrid?] at h
  split at h
  · next hlow hhigh =>
    rw [← Option.some.inj h]
    split
    · exact beq_iff_eq.mp hlow
    · exact beq_iff_eq.mp hhigh
  · next hlow _ =>
    rw [← Option.some.inj h]
    exact beq_iff_eq.mp hlow
  · next _ hhigh =>
    rw [← Option.some.inj h]
    exact beq_iff_eq.mp hhigh
  · cases h

theorem reads_search
    (hexact : f.ofDecimal false (num * 10 ^ den.log2 / den) (-(den.log2 : Int)) = bits)
    (fuel : Nat) (place : Int) :
    f.ofDecimal false (search f bits num den fuel place).digits
      (search f bits num den fuel place).exponent = bits := by
  induction fuel generalizing place with
  | zero => exact hexact
  | succ fuel ih =>
    rw [search]
    rcases h : onGrid? f bits num den place with _ | d
    · exact ih (place - 1)
    · exact reads_of_onGrid? h

theorem exact_expansion (num k : Nat) :
    ((num * 10 ^ (2 ^ k).log2 / 2 ^ k : Nat) * 10 ^ (-((2 ^ k).log2 : Int)) : ℚ) =
      num / (2 ^ k : Nat) := by
  have hdvd : 2 ^ k ∣ num * 10 ^ k := Dvd.dvd.mul_left (pow_dvd_pow_of_dvd (by decide) k) num
  rw [Nat.log2_two_pow, Nat.cast_div hdvd (Nat.cast_ne_zero.mpr (pow_ne_zero _ (by decide))),
    zpow_neg, zpow_natCast]
  push_cast
  field_simp

end Decimal

/-- A float is within the range of decimals that are rounded as quotients. -/
theorem float_bounds {m : Nat} {e : Int} (hm : m ≠ 0) (hcanonical : Canonical m e)
    (hhigh : e < 973) :
    (10 : ℚ) ^ (-400 : Int) ≤ m * 2 ^ e ∧ (m * 2 ^ e : ℚ) < 10 ^ (400 : Int) := by
  have hpow : (2 : ℚ) ^ (1074 : Int) ≤ 10 ^ (400 : Int) :=
    calc (2 : ℚ) ^ (1074 : Int) = (2 ^ 3) ^ 358 := by rw [← pow_mul]; rfl
      _ ≤ 10 ^ 358 := pow_le_pow_left₀ (by norm_num) (by norm_num) 358
      _ ≤ 10 ^ 400 := pow_le_pow_right₀ (by norm_num) (by norm_num)
  have hone : (1 : ℚ) ≤ m := Nat.one_le_cast.mpr (Nat.pos_of_ne_zero hm)
  have hlt : (m : ℚ) < 2 ^ (53 : Int) := by exact_mod_cast hcanonical.lt
  have hlow : (2 : ℚ) ^ (-1074 : Int) ≤ 2 ^ e := zpow_le_zpow_right₀ one_le_two hcanonical.le
  constructor
  · calc (10 : ℚ) ^ (-400 : Int) = (10 ^ (400 : Int))⁻¹ := zpow_neg _ _
      _ ≤ (2 ^ (1074 : Int))⁻¹ := inv_anti₀ (by positivity) hpow
      _ = 2 ^ (-1074 : Int) := (zpow_neg _ _).symm
      _ ≤ 1 * 2 ^ e := by rwa [one_mul]
      _ ≤ m * 2 ^ e := mul_le_mul_of_nonneg_right hone (by positivity)
  · calc (m * 2 ^ e : ℚ) < 2 ^ (53 : Int) * 2 ^ e := mul_lt_mul_of_pos_right hlt (by positivity)
      _ = 2 ^ (53 + e) := (zpow_add₀ two_ne_zero _ _).symm
      _ ≤ 2 ^ (1074 : Int) := zpow_le_zpow_right₀ one_le_two (by omega)
      _ ≤ 10 ^ (400 : Int) := hpow

/-- The shortest decimal of a float rounds to the float. -/
theorem ofDecimal_shortest {b : Nat} (hb : b < 2 ^ 64) {negative : Bool} {m : Nat} {e : Int}
    (h : BinaryFormat.binary64.decode b = .finite negative m e) (hm : m ≠ 0) :
    BinaryFormat.binary64.ofDecimal negative (Decimal.shortest .binary64 m e).digits
      (Decimal.shortest .binary64 m e).exponent = b := by
  have hinfinity : BinaryFormat.binary64.infinity = 2047 * 2 ^ 52 := rfl
  have hden : 2 ^ (-e).toNat ≠ 0 := pow_ne_zero _ (by decide)
  have hhigh : e < 973 := by
    obtain ⟨-, hlt⟩ := pattern_of_decode hb h
    rw [hinfinity, finest] at hlt
    omega
  obtain ⟨hleast, hgreatest⟩ := float_bounds hm (canonical_decode h) hhigh
  rw [← finite_quotient] at hleast hgreatest
  have hexact := BinaryFormat.binary64.ofDecimal_eq_ofRatio false hden
    (Decimal.exact_expansion (m * 2 ^ e.toNat) (-e).toNat) hleast hgreatest
  have hfound := Decimal.reads_search hexact 17
    (Decimal.floorLog10 (m * 2 ^ e.toNat) (2 ^ (-e).toNat))
  have hshortest : BinaryFormat.binary64.ofDecimal false (Decimal.shortest .binary64 m e).digits
      (Decimal.shortest .binary64 m e).exponent =
        BinaryFormat.binary64.ofRatio false (m * 2 ^ e.toNat) (2 ^ (-e).toNat) := by
    rw [← hfound]
    exact BinaryFormat.binary64.ofDecimal_congr false (Decimal.value_dropZeros _ _)
  rw [BinaryFormat.ofDecimal_signed, hshortest, ← BinaryFormat.ofRatio_signed,
    ofRatio_of_decode hb h]

/-- A float that is not zero is no decimal without digits. -/
theorem digits_shortest_ne_zero {b : Nat} (hb : b < 2 ^ 64) {negative : Bool} {m : Nat} {e : Int}
    (h : BinaryFormat.binary64.decode b = .finite negative m e) (hm : m ≠ 0) :
    (Decimal.shortest .binary64 m e).digits ≠ 0 := by
  intro hzero
  have hread := ofDecimal_shortest hb h hm
  have hpattern := (pattern_of_decode hb h).1
  have hsigned : BinaryFormat.binary64.signed negative 0 =
      BinaryFormat.binary64.signed negative ((e + finest).toNat * 2 ^ 52 + m) := by
    rw [hzero] at hread
    exact hread.trans hpattern
  cases negative
  · have : 0 = (e + finest).toNat * 2 ^ 52 + m := hsigned
    omega
  · have : 2 ^ 63 + 0 = 2 ^ 63 + ((e + finest).toNat * 2 ^ 52 + m) := hsigned
    omega

/-! ## Finite floats -/

theorem exists_finite {x : Float} (h : x.isFinite = true) :
    ∃ negative m e, floatValue x = .finite negative m e := by
  have hunpack : x.toModel.unpack.isFinite = true := h
  rw [unpack_toModel] at hunpack
  rcases hvalue : floatValue x with _ | negative | ⟨negative, m, e⟩
  · rw [hvalue] at hunpack
    cases hunpack
  · rw [hvalue] at hunpack
    cases hunpack
  · exact ⟨negative, m, e, rfl⟩

/-- A float is the one nearest to its shortest decimal. -/
theorem floatOfDecimal_shortest {x : Float} {negative : Bool} {m : Nat} {e : Int}
    (h : floatValue x = .finite negative m e) (hm : m ≠ 0) :
    floatOfDecimal negative (Decimal.shortest .binary64 m e).digits
      (Decimal.shortest .binary64 m e).exponent = x := by
  rw [floatOfDecimal, ofDecimal_shortest x.toBits.toNat_lt h hm, UInt64.ofNat_toNat,
    Float.ofBits_toBits]

/-- A zero keeps its sign. -/
theorem floatOfDecimal_zero {x : Float} {negative : Bool} {e : Int}
    (h : floatValue x = .finite negative 0 e) (exponent : Int) :
    floatOfDecimal negative 0 exponent = x := by
  have hread := ofRatio_of_decode x.toBits.toNat_lt h
  rw [Nat.zero_mul, BinaryFormat.ofRatio, if_pos rfl] at hread
  have hzero : BinaryFormat.binary64.ofDecimal negative 0 exponent = x.toBits.toNat := hread
  rw [floatOfDecimal, hzero, UInt64.ofNat_toNat, Float.ofBits_toBits]

end DataParallel.Number

import DataParallel.Proofs.Number.Comparison

/-!
# Which numbers are the same

A float that is finite is a whole multiple of the smallest positive one, and, apart from the two
zeros, it is the only float that stands for this multiple.  So two numbers, floats or whole ones,
are the same if and only if they are the same multiple.
-/

namespace DataParallel.Number

open Float.Model Float.Model.UnpackedFloat

/-- What a number is exactly: none, infinite, or a multiple of the smallest positive float. -/
inductive Exact where
  | nan
  | infinite (sign : Sign)
  | multiple (n : Int)

/-- The smallest positive float is two to the negative of this exponent. -/
def finest : Nat := 1074

/-- What a float that is taken apart is exactly. -/
def exactly : UnpackedFloat → Exact
  | .notANumber => .nan
  | .infinity s => .infinite s
  | .zero _ => .multiple 0
  | .finite s m e _ => .multiple (s.apply (m * 2 ^ (e + finest).toNat : Nat))

/-- What a float is exactly. -/
def exactFloat (x : Float) : Exact := exactly x.toModel.unpack

/-! ## Floats -/

/-- The significand of a float fills its digits, or the exponent is the smallest. -/
structure Canonical (m : Nat) (e : Int) : Prop where
  lt : m < 2 ^ 53
  full : e = -finest ∨ -finest < e ∧ 2 ^ 52 ≤ m

theorem Canonical.le {m : Nat} {e : Int} (h : Canonical m e) : -finest ≤ e := by
  rcases h.full with rfl | ⟨hlt, -⟩
  · exact Int.le_refl _
  · exact Int.le_of_lt hlt

theorem canonical_decode {b : Nat} {negative : Bool} {m : Nat} {e : Int}
    (h : BinaryFormat.binary64.decode b = .finite negative m e) : Canonical m e := by
  have hfractions : BinaryFormat.binary64.fractions = 2 ^ 52 := rfl
  have hmin : BinaryFormat.binary64.minExponent = -1074 := rfl
  simp only [BinaryFormat.decode, hfractions, hmin] at h
  split at h
  · split at h <;> cases h
  · split at h
    · obtain ⟨-, rfl, rfl⟩ := BinaryValue.finite.inj h
      exact ⟨by omega, Or.inl rfl⟩
    · obtain ⟨-, rfl, rfl⟩ := BinaryValue.finite.inj h
      refine ⟨by omega, ?_⟩
      rw [finest]
      omega

theorem canonical_unpack {x : Float} {s : Sign} {m : Nat} {e : Int} {hm : 0 < m}
    (h : x.toModel.unpack = .finite s m e hm) : Canonical m e := by
  rw [unpack_toModel] at h
  rcases hvalue : floatValue x with _ | negative | ⟨negative, significand, exponent⟩
  · rw [hvalue] at h
    cases h
  · rw [hvalue] at h
    cases h
  · rw [hvalue, BinaryValue.unpacked] at h
    split at h
    · cases h
    · obtain ⟨-, rfl, rfl⟩ := UnpackedFloat.finite.inj h
      exact canonical_decode hvalue

/-- A significand that fills its digits stands for more than another one with a smaller exponent. -/
theorem multiple_ne {m n a b : Nat} (hm : m < 2 ^ 53) (hn : 2 ^ 52 ≤ n) (hab : a < b) :
    m * 2 ^ a ≠ n * 2 ^ b := by
  apply Nat.ne_of_lt
  calc m * 2 ^ a < 2 ^ 53 * 2 ^ a := Nat.mul_lt_mul_of_pos_right hm (Nat.two_pow_pos a)
    _ = 2 ^ 52 * 2 ^ (a + 1) := by
        rw [← Nat.pow_add, ← Nat.pow_add]
        congr 1
        omega
    _ ≤ n * 2 ^ b := Nat.mul_le_mul hn (Nat.pow_le_pow_right (by decide) hab)

/-- One multiple of the smallest float has one significand and one exponent. -/
theorem eq_of_multiple_eq {m n : Nat} {e f : Int} (hm : Canonical m e) (hn : Canonical n f)
    (h : m * 2 ^ (e + finest).toNat = n * 2 ^ (f + finest).toNat) : m = n ∧ e = f := by
  obtain ⟨hm, he⟩ := hm
  obtain ⟨hn, hf⟩ := hn
  rcases Nat.lt_trichotomy (e + finest).toNat (f + finest).toNat with hlt | hsame | hgt
  · exact absurd h (multiple_ne hm (by omega) hlt)
  · rw [hsame] at h
    exact ⟨Nat.eq_of_mul_eq_mul_right (Nat.two_pow_pos _) h, by omega⟩
  · exact absurd h.symm (multiple_ne hn (by omega) hgt)

theorem exactly_finite_ne_zero (s : Sign) {m : Nat} (e : Int) (hm : 0 < m) (t : Sign) :
    exactly (.finite s m e hm) ≠ exactly (.zero t) := by
  intro h
  have hzero := Exact.multiple.inj h
  have hpositive : 0 < m * 2 ^ (e + finest).toNat := Nat.mul_pos hm (Nat.two_pow_pos _)
  rcases s with _ | _
  · rw [Sign.apply] at hzero
    omega
  · rw [Sign.apply] at hzero
    omega

theorem apply_inj {s t : Sign} {m n : Nat} (hm : 0 < m) (hn : 0 < n)
    (h : s.apply m = t.apply n) : s = t ∧ m = n := by
  rcases s with _ | _ <;> rcases t with _ | _ <;> rw [Sign.apply, Sign.apply] at h
  · exact ⟨rfl, by omega⟩
  · omega
  · omega
  · exact ⟨rfl, by omega⟩

/-- Floats that are the same exactly are put together in the same way, or both are zeros. -/
theorem eq_of_exactly_eq {x y : Float}
    (h : exactly x.toModel.unpack = exactly y.toModel.unpack) :
    x.toModel.unpack = y.toModel.unpack ∨
      ∃ s t, x.toModel.unpack = .zero s ∧ y.toModel.unpack = .zero t := by
  rcases hu : x.toModel.unpack with s | _ | s | ⟨s, m, e, hm⟩ <;>
    rcases hv : y.toModel.unpack with t | _ | t | ⟨t, n, f, hn⟩ <;>
    rw [hu, hv] at h
  case infinity.infinity =>
    rw [Exact.infinite.inj h]
    exact Or.inl rfl
  case notANumber.notANumber => exact Or.inl rfl
  case zero.zero => exact Or.inr ⟨s, t, rfl, rfl⟩
  case finite.zero => exact absurd h (exactly_finite_ne_zero s e hm t)
  case zero.finite => exact absurd h.symm (exactly_finite_ne_zero t f hn s)
  case finite.finite =>
    obtain ⟨rfl, hmultiple⟩ := apply_inj (Nat.mul_pos hm (Nat.two_pow_pos _))
      (Nat.mul_pos hn (Nat.two_pow_pos _)) (Exact.multiple.inj h)
    obtain ⟨rfl, rfl⟩ := eq_of_multiple_eq (canonical_unpack hu) (canonical_unpack hv) hmultiple
    exact Or.inl rfl
  all_goals cases h

theorem beq_iff {x y : Float} : (x == y) = true ↔
    x.toModel.unpack ≠ .notANumber ∧ y.toModel.unpack ≠ .notANumber ∧
      (x.toModel.unpack = y.toModel.unpack ∨
        x.toModel.unpack = .zero .positive ∧ y.toModel.unpack = .zero .negative ∨
        x.toModel.unpack = .zero .negative ∧ y.toModel.unpack = .zero .positive) :=
  beq_iff_ne_notANumber_and_eq _ _

/-- Floats are the same number, or no number both, if and only if they are the same exactly. -/
theorem same_iff_exactFloat {x y : Float} :
    (x == y || (x.isNaN && y.isNaN)) = true ↔ exactFloat x = exactFloat y := by
  have hnan {z : Float} : z.isNaN = true ↔ z.toModel.unpack = .notANumber :=
    UnpackedFloat.isNaN_iff
  rw [Bool.or_eq_true, Bool.and_eq_true, beq_iff, hnan, hnan, exactFloat, exactFloat]
  constructor
  · rintro (⟨-, -, hsame | ⟨hx, hy⟩ | ⟨hx, hy⟩⟩ | ⟨hx, hy⟩)
    · rw [hsame]
    · rw [hx, hy]
      rfl
    · rw [hx, hy]
      rfl
    · rw [hx, hy]
  · intro h
    rcases eq_of_exactly_eq h with hsame | ⟨s, t, hx, hy⟩
    · rw [← hsame]
      by_cases hx : x.toModel.unpack = .notANumber
      · exact Or.inr ⟨hx, hx⟩
      · exact Or.inl ⟨hx, hx, Or.inl rfl⟩
    · rw [hx, hy]
      cases s <;> cases t <;> simp

/-! ## Whole numbers and floats -/

theorem exactly_unpacked (negative : Bool) (m : Nat) (e : Int) :
    exactly (BinaryValue.finite negative m e).unpacked =
      .multiple ((signOf negative).apply (m * 2 ^ (e + finest).toNat : Nat)) := by
  rw [BinaryValue.unpacked]
  split
  · next h =>
    rw [h, Nat.zero_mul]
    cases negative <;> rfl
  · rfl

theorem apply_signOf_eq_iff (negative : Bool) (a : Nat) (n : Int) :
    (signOf negative).apply a = n ↔
      a = n.natAbs ∧ (a = 0 ∨ negative = decide (n < 0)) := by
  cases negative
  · show (a : Int) = n ↔ _
    rw [eq_comm (a := false), decide_eq_false_iff_not]
    omega
  · show -(a : Int) = n ↔ _
    rw [eq_comm (a := true), decide_eq_true_iff]
    omega

/-- A power of two can be moved from one side to the other. -/
theorem mul_pow_eq_iff {m n a b c d : Nat} (h : a + d = b + c) :
    m * 2 ^ a = n * 2 ^ b ↔ m * 2 ^ c = n * 2 ^ d := by
  have hup : m * 2 ^ a = n * 2 ^ b ↔ m * 2 ^ (a + d) = n * 2 ^ (b + d) := by
    rw [Nat.pow_add, Nat.pow_add, ← Nat.mul_assoc, ← Nat.mul_assoc]
    exact (Nat.mul_left_inj (Nat.ne_of_gt (Nat.two_pow_pos d))).symm
  have hdown : m * 2 ^ c = n * 2 ^ d ↔ m * 2 ^ (b + c) = n * 2 ^ (b + d) := by
    rw [Nat.add_comm b, Nat.add_comm b, Nat.pow_add, Nat.pow_add, ← Nat.mul_assoc,
      ← Nat.mul_assoc]
    exact (Nat.mul_left_inj (Nat.ne_of_gt (Nat.two_pow_pos b))).symm
  rw [hup, hdown, h]

/-- The exact value of a finite float with a whole number. -/
theorem exactFloat_eq_multiple {x : Float} {negative : Bool} {m : Nat} {e n : Int}
    (h : floatValue x = .finite negative m e) :
    exactFloat x = .multiple (n * 2 ^ finest) ↔
      m * 2 ^ e.toNat = n.natAbs * 2 ^ (-e).toNat ∧ (m = 0 ∨ negative = decide (n < 0)) := by
  have hplace : -finest ≤ e := (canonical_decode h).le
  have hpositive : (0 : Int) < 2 ^ finest := Int.pow_pos (by decide)
  have habs : (n * 2 ^ finest).natAbs = n.natAbs * 2 ^ finest := by
    have htwo : (2 : Int).natAbs = 2 := rfl
    rw [Int.natAbs_mul, Int.natAbs_pow, htwo]
  have hzero : m * 2 ^ (e + finest).toNat = 0 ↔ m = 0 :=
    ⟨fun h => (Nat.mul_eq_zero.mp h).resolve_right (Nat.ne_of_gt (Nat.two_pow_pos _)), fun h => by
      rw [h, Nat.zero_mul]⟩
  have hsign : n * 2 ^ finest < 0 ↔ n < 0 := by
    conv => lhs; rw [← Int.zero_mul (2 ^ finest)]
    exact Int.mul_lt_mul_right hpositive
  rw [exactFloat, unpack_toModel, h, exactly_unpacked, Exact.multiple.injEq, apply_signOf_eq_iff,
    habs, hzero, mul_pow_eq_iff (c := e.toNat) (d := (-e).toNat) (by omega)]
  simp only [hsign]

end DataParallel.Number

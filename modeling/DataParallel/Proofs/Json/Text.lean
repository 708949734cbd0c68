import DataParallel.Json.Writer
import DataParallel.Json.Reader
import Mathlib.Tactic.SplitIfs

/-!
# Texts are read back from JSON

Every character is written in ASCII: by itself, by a letter behind a backslash, or by one or two
units of sixteen bits.  Reading takes one step for it in each of these forms.  A unit by itself is
no half of a character, and the two halves of a pair are put together again.
-/

namespace DataParallel.Json

/-! ## Units -/

theorem hexValue?_hexDigit {d : Nat} (hd : d < 16) : hexValue? (Text.hexDigit d) = some d := by
  revert d
  decide

theorem readUnit_hexDigits {n : Nat} (hn : n < 0x10000) (rest : List Char) :
    readUnit (Text.hexDigits 4 n ++ rest) = some (n, rest) := by
  have hvalue : ∀ k, hexValue? (Text.hexDigit (k % 16)) = some (k % 16) :=
    fun k => hexValue?_hexDigit (Nat.mod_lt k (by decide))
  have hdigits : Text.hexDigits 4 n ++ rest =
      Text.hexDigit (n / 16 / 16 / 16 % 16) :: Text.hexDigit (n / 16 / 16 % 16) ::
        Text.hexDigit (n / 16 % 16) :: Text.hexDigit (n % 16) :: rest := rfl
  rw [hdigits, readUnit]
  simp [hvalue]
  omega

/-- A character is no half of a pair. -/
theorem isHalf_toNat (c : Char) : Text.isHalf c.toNat = false := by
  have hvalid : c.toNat < 0xD800 ∨ 0xDFFF < c.toNat ∧ c.toNat < 0x110000 := c.valid
  simp only [Text.isHalf, Text.isHighHalf, Text.isLowHalf, Bool.or_eq_false_iff,
    Bool.and_eq_false_iff, decide_eq_false_iff_not]
  omega

theorem isHighHalf_toNat (c : Char) : Text.isHighHalf c.toNat = false :=
  (Bool.or_eq_false_iff.mp (isHalf_toNat c)).1

theorem readEscapedUnits_single {n : Nat} (hn : n < 0x10000) (hhalf : Text.isHighHalf n = false)
    (rest : List Char) : readEscapedUnits (Text.hexDigits 4 n ++ rest) = some (n, rest) := by
  rw [readEscapedUnits, readUnit_hexDigits hn]
  simp [hhalf]

/-- Two halves are put together. -/
theorem readEscapedUnits_pair {high low : Nat} (hhigh : Text.isHighHalf high = true)
    (hlow : Text.isLowHalf low = true) (rest : List Char) :
    readEscapedUnits (Text.hexDigits 4 high ++ (escapeUnit low ++ rest)) =
      some (0x10000 + (high - 0xD800) * 0x400 + (low - 0xDC00), rest) := by
  have hbounds := hhigh
  have hbounds' := hlow
  simp only [Text.isHighHalf, Text.isLowHalf, Bool.and_eq_true, decide_eq_true_eq]
    at hbounds hbounds'
  rw [readEscapedUnits, readUnit_hexDigits (by omega), escapeUnit, List.cons_append,
    List.cons_append]
  simp only [Option.bind_eq_bind, Option.bind_some, hhigh, if_true]
  rw [readUnit_hexDigits (by omega)]
  simp only [Option.bind_some, hlow, if_true]
  rfl

section Halves

variable {n : Nat} (hlow : 0x10000 ≤ n) (hhigh : n < 0x110000)

include hlow hhigh in
theorem isHighHalf_of_le : Text.isHighHalf (0xD800 + (n - 0x10000) / 0x400) = true := by
  simp only [Text.isHighHalf, Bool.and_eq_true, decide_eq_true_eq]
  omega

theorem isLowHalf_mod : Text.isLowHalf (0xDC00 + (n - 0x10000) % 0x400) = true := by
  simp only [Text.isLowHalf, Bool.and_eq_true, decide_eq_true_eq]
  omega

include hlow in
theorem join_halves : 0x10000 + (0xD800 + (n - 0x10000) / 0x400 - 0xD800) * 0x400 +
    (0xDC00 + (n - 0x10000) % 0x400 - 0xDC00) = n := by
  omega

end Halves

/-- A code point beyond the first sixteen bits is read from its two halves. -/
theorem readEscapedUnits_halves {n : Nat} (hlow : 0x10000 ≤ n) (hhigh : n < 0x110000)
    (rest : List Char) :
    readEscapedUnits (Text.hexDigits 4 (0xD800 + (n - 0x10000) / 0x400) ++
      (escapeUnit (0xDC00 + (n - 0x10000) % 0x400) ++ rest)) = some (n, rest) := by
  rw [readEscapedUnits_pair (isHighHalf_of_le hlow hhigh) isLowHalf_mod, join_halves hlow]

/-! ## Characters -/

section Character

variable (fuel : Nat) (rest : List Char)

theorem readTextBody_plain {c : Char} (hquote : c ≠ '"') (hslash : c ≠ '\\') (hc : 32 ≤ c.toNat) :
    readTextBody (fuel + 1) (c :: rest) =
      (readTextBody fuel rest).map fun (cs, rest) => (c.toNat :: cs, rest) := by
  have haccepted : ¬(decide (c.toNat < 32) || decide (c = '\\')) = true := by
    simp [hslash, Nat.not_lt_of_le hc]
  rw [readTextBody, if_neg haccepted]
  · cases readTextBody fuel rest <;> rfl
  · exact hquote
  · exact fun _ h => absurd h hslash
  · exact fun _ _ h => absurd h hslash

theorem readTextBody_letter {e c : Char} (he : e ≠ 'u') (hc : escaped? e = some c) :
    readTextBody (fuel + 1) ('\\' :: e :: rest) =
      (readTextBody fuel rest).map fun (cs, rest) => (c.toNat :: cs, rest) := by
  rw [readTextBody, hc]
  · cases readTextBody fuel rest <;> rfl
  · exact he

theorem readTextBody_units {n : Nat} {cs : List Char}
    (h : readEscapedUnits cs = some (n, rest)) :
    readTextBody (fuel + 1) ('\\' :: 'u' :: cs) =
      (readTextBody fuel rest).map fun (cs, rest) => (n :: cs, rest) := by
  rw [readTextBody, h]
  cases hrest : readTextBody fuel rest <;> simp [hrest]

/-- One character takes one step. -/
theorem readTextBody_escapeChar (c : Char) :
    readTextBody (fuel + 1) (escapeChar c ++ rest) =
      (readTextBody fuel rest).map fun (cs, rest) => (c.toNat :: cs, rest) := by
  rw [escapeChar]
  split_ifs with hmark hnewline hreturn htab hfeed hback hprintable
  · rcases (Bool.or_eq_true _ _).mp hmark with hquote | hslash
    · rw [of_decide_eq_true hquote]
      exact readTextBody_letter fuel rest (by decide) rfl
    · rw [of_decide_eq_true hslash]
      exact readTextBody_letter fuel rest (by decide) rfl
  · rw [hnewline]
    exact readTextBody_letter fuel rest (by decide) rfl
  · rw [hreturn]
    exact readTextBody_letter fuel rest (by decide) rfl
  · rw [htab]
    exact readTextBody_letter fuel rest (by decide) rfl
  · have hc : c = Char.ofNat 12 := by rw [← hfeed, Char.ofNat_toNat]
    rw [hc]
    exact readTextBody_letter fuel rest (by decide) rfl
  · have hc : c = Char.ofNat 8 := by rw [← hback, Char.ofNat_toNat]
    rw [hc]
    exact readTextBody_letter fuel rest (by decide) rfl
  · simp only [Bool.or_eq_true, decide_eq_true_eq, not_or] at hmark
    simp only [Bool.and_eq_true, decide_eq_true_eq] at hprintable
    exact readTextBody_plain fuel rest hmark.1 hmark.2 hprintable.1
  · -- What is left is beyond ASCII or a control character, and is written in units.
    rw [units]
    split_ifs with hsmall
    · rw [List.flatMap_singleton]
      exact readTextBody_units fuel rest (readEscapedUnits_single hsmall (isHighHalf_toNat c) rest)
    · have hhigh : c.toNat < 0x110000 := by
        have hvalid : c.toNat < 0xD800 ∨ 0xDFFF < c.toNat ∧ c.toNat < 0x110000 := c.valid
        omega
      rw [List.flatMap_cons, List.flatMap_singleton, List.append_assoc]
      exact readTextBody_units fuel rest
        (readEscapedUnits_halves (Nat.le_of_not_lt hsmall) hhigh rest)

end Character

/-! ## Texts -/

theorem readTextBody_flatMap (s rest : List Char) {fuel : Nat} (hfuel : s.length < fuel) :
    readTextBody fuel (s.flatMap escapeChar ++ '"' :: rest) = some (s.map Char.toNat, rest) := by
  induction s generalizing fuel with
  | nil =>
    obtain ⟨fuel, rfl⟩ := Nat.exists_eq_succ_of_ne_zero (Nat.ne_zero_of_lt hfuel)
    rfl
  | cons c s ih =>
    obtain ⟨fuel, rfl⟩ := Nat.exists_eq_succ_of_ne_zero (Nat.ne_zero_of_lt hfuel)
    rw [List.flatMap_cons, List.append_assoc, readTextBody_escapeChar,
      ih (Nat.lt_of_succ_lt_succ hfuel)]
    rfl

/-- Nothing is written for no character. -/
theorem length_escapeChar_pos (c : Char) : 0 < (escapeChar c).length := by
  rw [escapeChar, units]
  split_ifs <;> simp [escapeUnit]

theorem length_le_flatMap (s : List Char) : s.length ≤ (s.flatMap escapeChar).length := by
  induction s with
  | nil => exact Nat.le_refl _
  | cons c s ih =>
    have hpos := length_escapeChar_pos c
    rw [List.flatMap_cons, List.length_append, List.length_cons]
    omega

theorem ofCodes_toNat (s : String) : Value.ofCodes (s.toList.map Char.toNat) = .text s := by
  have hhalf : (s.toList.map Char.toNat).any Text.isHalf = false := by
    simp [isHalf_toNat]
  have hchars : (s.toList.map Char.toNat).map Char.ofNat = s.toList := by
    rw [List.map_map]
    exact List.map_id'' Char.ofNat_toNat _
  rw [Value.ofCodes, hhalf, hchars, String.ofList_toList]
  rfl

/-- A text is read from what is written for it. -/
theorem readText_quote (s : String) (rest : List Char) :
    readText (s.toList.flatMap escapeChar ++ '"' :: rest) = some (.text s, rest) := by
  have hfuel : s.toList.length < (s.toList.flatMap escapeChar ++ '"' :: rest).length := by
    have hlength := length_le_flatMap s.toList
    rw [List.length_append, List.length_cons]
    omega
  rw [readText, readTextBody_flatMap _ _ hfuel]
  exact congrArg (fun v => some (v, rest)) (ofCodes_toNat s)

end DataParallel.Json

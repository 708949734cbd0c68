import DataParallel.Number.Notation
import DataParallel.Text.Digit
import Mathlib.Data.List.DropRight

/-!
# Whole numbers are read back

A whole number is read from the text that is written for it, if it has no more digits than a text
may have.  A number that was read has no more digits than the text had, so it can be written and
read again; its text may have been longer, for zeros in front, and in the digits of another script.
-/

namespace DataParallel.Text

/-! ## Trimming -/

theorem dropRight_eq_rdropWhile (p : Char → Bool) (s : List Char) :
    dropRight p s = s.rdropWhile p := rfl

/-- A text between two characters that stay is not trimmed. -/
theorem trim_eq_self {p : Char → Bool} {s : List Char} (hhead : ∀ c ∈ s.head?, p c = false)
    (hlast : ∀ c ∈ s.getLast?, p c = false) : trim p s = s := by
  have hleft : s.dropWhile p = s := by
    rw [List.dropWhile_eq_self_iff]
    intro hs
    rw [hhead _ (List.head?_eq_getElem? ▸ List.getElem?_eq_getElem hs)]
    exact Bool.false_ne_true
  rw [trim, hleft, dropRight_eq_rdropWhile, List.rdropWhile_eq_self_iff]
  intro hs
  rw [hlast _ (List.getLast?_eq_some_getLast hs)]
  exact Bool.false_ne_true

theorem head?_eq_of_begins {s t : List Char} (h : s <+: t) {c : Char} (hc : s.head? = some c) :
    t.head? = some c := by
  obtain ⟨rest, rfl⟩ := h
  rw [List.head?_append, hc, Option.some_or]

/-- What is trimmed begins with no character of the class. -/
theorem head_trim {p : Char → Bool} {s : List Char} {c : Char}
    (h : (trim p s).head? = some c) : p c = false := by
  have hprefix : trim p s <+: s.dropWhile p := List.rdropWhile_prefix p (s.dropWhile p)
  have hnot := List.head?_dropWhile_not p s
  rw [head?_eq_of_begins hprefix h] at hnot
  simpa using hnot

/-! ## Digits -/

theorem digitValue?_of_isDigit {c : Char} (h : c.isDigit = true) :
    digitValue? c = some (c.toNat - 48) := by
  have hrow : 0x30 ≤ c.toNat ∧ c.toNat < 0x30 + 10 := by
    simp only [Char.isDigit, ge_iff_le, Bool.and_eq_true, decide_eq_true_eq] at h
    exact ⟨h.1, Nat.lt_succ_of_le h.2⟩
  rw [digitValue?, digitZeros, List.find?_cons_of_pos (by simpa using hrow)]
  rfl

theorem readDigits?_of_isDigit {s : List Char} (hs : s ≠ []) (h : ∀ c ∈ s, c.isDigit = true) :
    readDigits? s = some (s.map fun c => c.toNat - 48) := by
  fun_induction readDigits? s with
  | case1 => contradiction
  | case2 c => simp [digitValue?_of_isDigit (h c List.mem_cons_self)]
  | case3 c rest ih =>
    have hunderscore : '_'.isDigit = true := h '_' (by simp)
    contradiction
  | case4 c rest hrest _ ih =>
    rw [ih hrest fun d hd => h d (List.mem_cons_of_mem c hd),
      digitValue?_of_isDigit (h c List.mem_cons_self)]
    rfl

theorem ofDigits_map (s : List Char) :
    ofDigits (s.map fun c => c.toNat - 48) = Nat.ofDigitChars 10 s 0 := by
  rw [ofDigits, List.foldl_map, Nat.ofDigitChars_eq_foldl]
  rfl

theorem isDigit_of_mem_natDigits {n : Nat} {c : Char} (h : c ∈ Number.natDigits n) :
    c.isDigit = true :=
  Nat.isDigit_of_mem_toDigits (by decide) (by decide) h

theorem readNat?_natDigits {n : Nat} (h : (Number.natDigits n).length ≤ maxDigits) :
    readNat? (Number.natDigits n) = some n := by
  have hread := readDigits?_of_isDigit (s := Number.natDigits n) Nat.toDigits_ne_nil
    fun c hc => isDigit_of_mem_natDigits hc
  have hvalue : ofDigits ((Number.natDigits n).map fun c => c.toNat - 48) = n := by
    rw [ofDigits_map, Number.natDigits, Nat.ofDigitChars_ten_toDigits]
  simp [readNat?, hread, h, hvalue]

/-! ## Whole numbers -/

theorem toList_intText (n : Int) : (Number.intText n).toList =
    (if n < 0 then ['-'] else []) ++ Number.natDigits n.natAbs := by
  rw [Number.intText, String.toList_ofList]

/-- A whole number is written with digits and a sign. -/
theorem mem_intText {n : Int} {c : Char} (h : c ∈ (Number.intText n).toList) :
    c = '-' ∨ c.isDigit = true := by
  rw [toList_intText, List.mem_append] at h
  rcases h with h | h
  · left
    split at h
    · simpa using h
    · simp at h
  · exact Or.inr (isDigit_of_mem_natDigits h)

theorem isNumberBlank_of_isDigit {c : Char} (h : c.isDigit = true) : isNumberBlank c = false := by
  simp only [Char.isDigit, ge_iff_le, Bool.and_eq_true, decide_eq_true_eq] at h
  have hlow : 48 ≤ c.toNat := h.1
  have hhigh : c.toNat ≤ 57 := h.2
  simp [isNumberBlank, isBlank]
  omega

theorem trim_intText (n : Int) :
    trim isNumberBlank (Number.intText n).toList = (Number.intText n).toList := by
  have hkept : ∀ c ∈ (Number.intText n).toList, isNumberBlank c = false := by
    intro c hc
    rcases mem_intText hc with rfl | hdigit
    · decide
    · exact isNumberBlank_of_isDigit hdigit
  apply trim_eq_self
  · exact fun c hc => hkept c (List.mem_of_head? hc)
  · exact fun c hc => hkept c (List.mem_of_getLast? hc)

/-- A whole number is read from what is written for it. -/
theorem readInt?_intText {n : Int} (h : (Number.natDigits n.natAbs).length ≤ maxDigits) :
    readInt? (Number.intText n).toList = some n := by
  have hread := readNat?_natDigits h
  rw [readInt?, trim_intText, toList_intText]
  by_cases hsign : n < 0
  · have hvalue : -(n.natAbs : Int) = n := by omega
    simpa [hsign, hread] using hvalue
  · have hvalue : (n.natAbs : Int) = n := by omega
    simp only [hsign, if_false, List.nil_append]
    split
    · next rest hdigits =>
      have hminus : '-'.isDigit = true := isDigit_of_mem_natDigits (hdigits ▸ List.mem_cons_self)
      contradiction
    · next rest hdigits =>
      have hplus : '+'.isDigit = true := isDigit_of_mem_natDigits (hdigits ▸ List.mem_cons_self)
      contradiction
    · simpa [hread] using hvalue

/-! ## What can be read -/

theorem lt_of_digitValue? {c : Char} {d : Nat} (h : digitValue? c = some d) : d < 10 := by
  rw [digitValue?] at h
  obtain ⟨row, hrow, rfl⟩ := Option.map_eq_some_iff.mp h
  have hrange := List.find?_some hrow
  simp only [Bool.and_eq_true, decide_eq_true_eq] at hrange
  omega

theorem readDigits?_eq_some {s : List Char} {ds : List Nat} (h : readDigits? s = some ds) :
    ds ≠ [] ∧ ∀ d ∈ ds, d < 10 := by
  fun_induction readDigits? s generalizing ds with
  | case1 => contradiction
  | case2 c =>
    obtain ⟨d, hd, rfl⟩ := Option.map_eq_some_iff.mp h
    simp [lt_of_digitValue? hd]
  | case3 c rest ih =>
    simp only [Option.bind_eq_bind, Option.bind_eq_some_iff, Option.pure_def,
      Option.some.injEq] at h
    obtain ⟨d, hd, tail, htail, rfl⟩ := h
    simpa [lt_of_digitValue? hd] using (ih htail).2
  | case4 c rest _ _ ih =>
    simp only [Option.bind_eq_bind, Option.bind_eq_some_iff, Option.pure_def,
      Option.some.injEq] at h
    obtain ⟨d, hd, tail, htail, rfl⟩ := h
    simpa [lt_of_digitValue? hd] using (ih htail).2

theorem ofDigits_lt {ds : List Nat} (h : ∀ d ∈ ds, d < 10) : ofDigits ds < 10 ^ ds.length := by
  induction ds using List.reverseRecOn with
  | nil => decide
  | append_singleton ds d ih =>
    have hfront := ih fun e he => h e (List.mem_append_left _ he)
    have hlast := h d (by simp)
    rw [ofDigits] at hfront ⊢
    rw [List.foldl_append, List.length_append, List.length_singleton, Nat.pow_succ]
    simp only [List.foldl_cons, List.foldl_nil]
    omega

theorem length_natDigits_of_readNat? {s : List Char} {n : Nat} (h : readNat? s = some n) :
    (Number.natDigits n).length ≤ maxDigits := by
  rw [readNat?, Option.bind_eq_bind, Option.bind_eq_some_iff] at h
  obtain ⟨ds, hds, h⟩ := h
  obtain ⟨hne, hdigits⟩ := readDigits?_eq_some hds
  split at h
  · next hlength =>
    have hshort : (Number.natDigits n).length ≤ ds.length := by
      rw [Number.natDigits, Nat.length_toDigits_le_iff (by decide) (List.length_pos_of_ne_nil hne),
        ← Option.some.inj h]
      exact ofDigits_lt hdigits
    exact hshort.trans hlength
  · contradiction

/-- A number that was read can be written with as many digits as a text may have. -/
theorem length_natDigits_of_readInt? {s : List Char} {n : Int} (h : readInt? s = some n) :
    (Number.natDigits n.natAbs).length ≤ maxDigits := by
  rw [readInt?] at h
  split at h
  all_goals
    obtain ⟨i, hi, rfl⟩ := Option.map_eq_some_iff.mp h
    obtain ⟨m, hm, hcast⟩ := Option.bind_eq_some_iff.mp hi
    obtain rfl : (m : Int) = i := Option.some.inj hcast
    simpa using length_natDigits_of_readNat? hm

end DataParallel.Text

import DataParallel.Text.Blank
import DataParallel.Text.Case
import Mathlib.Data.List.Basic

/-!
# Lower case is final

A text in lower case stays as it is when it is put into lower case again.  The forms of the letters
are not letters with another form themselves, and none of them is a capital sigma, whose form
depends on its neighbours.  Nor does a letter become a blank, so that a text in lower case begins
with a blank only if it did so before.  For the letters in runs this is seen run by run: the images
of one run lie behind, before or between the letters of another.
-/

namespace DataParallel.Text

/-- A run of code points with the image of the first. -/
abbrev Run := Nat × Nat × Nat × Nat

/-- The code point is one of the run. -/
def Covers (run : Run) (n : Nat) : Prop :=
  run.1 ≤ n ∧ n ≤ run.2.1 ∧ (n - run.1) % run.2.2.1 = 0

/-- The image of a code point of a run. -/
def imageIn (run : Run) (n : Nat) : Nat := run.2.2.2 + (n - run.1)

theorem mapByRuns_cases (runs : List Run) (n : Nat) :
    (mapByRuns runs n = n ∧ ∀ run ∈ runs, ¬ Covers run n) ∨
      ∃ run ∈ runs, Covers run n ∧ mapByRuns runs n = imageIn run n := by
  rw [mapByRuns]
  split
  · next first last step start hfind =>
    right
    refine ⟨(first, last, step, start), List.mem_of_find?_eq_some hfind, ?_, rfl⟩
    simpa [Covers, and_assoc] using List.find?_some hfind
  · next hfind =>
    left
    refine ⟨rfl, fun run hrun hcovers => ?_⟩
    have hnot := List.find?_eq_none.mp hfind run hrun
    simp [hcovers.1, hcovers.2.1, hcovers.2.2] at hnot

/-! ## Where images do not lie -/

/-- The blanks in runs. -/
def blankRuns : List Run :=
  [(9, 13, 1, 0), (28, 32, 1, 0), (0x85, 0x85, 1, 0), (0xA0, 0xA0, 1, 0), (0x1680, 0x1680, 1, 0),
   (0x2000, 0x200A, 1, 0), (0x2028, 0x2029, 1, 0), (0x202F, 0x202F, 1, 0), (0x205F, 0x205F, 1, 0),
   (0x3000, 0x3000, 1, 0)]

/-- The capital I with a dot, and the code points that are halves of characters. -/
def otherRuns : List Run := [(0x130, 0x130, 1, 0), (0xD800, 0xDFFF, 1, 0)]

theorem exists_covers_of_isBlank {c : Char} (h : isBlank c = true) :
    ∃ run ∈ blankRuns, Covers run c.toNat := by
  simp only [isBlank, Bool.or_eq_true, Bool.and_eq_true, decide_eq_true_eq, beq_iff_eq] at h
  simp only [blankRuns, List.mem_cons, List.not_mem_nil, or_false, exists_eq_or_imp,
    exists_eq_left, Covers, Nat.mod_one, and_true]
  omega

/-- The images of the first run lie before the second run, behind it, or between its letters. -/
def misses (run other : Run) : Bool :=
  bif Nat.ble other.1 (run.2.2.2 + (run.2.1 - run.1)) && Nat.ble run.2.2.2 other.2.1 then
    other.2.2.1 == 2 && (run.2.2.1 == 2 || run.1 == run.2.1) && (run.2.2.2 + other.1) % 2 == 1
  else true

theorem not_covers_imageIn {run other : Run} (h : misses run other = true) {n : Nat}
    (hn : Covers run n) : ¬ Covers other (imageIn run n) := by
  obtain ⟨first, last, step, start⟩ := run
  obtain ⟨first', last', step', start'⟩ := other
  obtain ⟨hfirst, hlast, hstep⟩ := hn
  rintro ⟨hfirst', hlast', hstep'⟩
  dsimp only [imageIn] at *
  have hmeets : (Nat.ble first' (start + (last - first)) && Nat.ble start last') = true := by
    rw [Bool.and_eq_true, Nat.ble_eq, Nat.ble_eq]
    omega
  simp only [misses, hmeets, cond_true, Bool.and_eq_true, Bool.or_eq_true, beq_iff_eq] at h
  obtain ⟨⟨rfl, rfl | rfl⟩, hbetween⟩ := h
  · omega
  · omega

theorem lowerRuns_miss :
    (lowerRuns.all fun run => (otherRuns ++ blankRuns ++ lowerRuns).all (misses run)) = true := by
  decide +kernel

theorem imageIn_lt {run : Run} (hrun : run ∈ lowerRuns) {n : Nat} (hn : Covers run n) :
    imageIn run n < 0x110000 := by
  have hbounds : ∀ run ∈ lowerRuns, run.2.2.2 + (run.2.1 - run.1) < 0x110000 := by
    decide +kernel
  have hbound := hbounds run hrun
  obtain ⟨-, hlast, -⟩ := hn
  rw [imageIn]
  omega

/-! ## The forms of characters -/

/-- A character that is its own lower-case form, wherever it stands. -/
def IsLower (c : Char) : Prop := c ≠ 'Σ' ∧ lowerChar c = [c]

instance (c : Char) : Decidable (IsLower c) := inferInstanceAs (Decidable (_ ∧ _))

theorem toNat_ofNat {n : Nat} (h : n.isValidChar) : (Char.ofNat n).toNat = n := by
  rw [Char.ofNat, dif_pos h]
  rfl

theorem isLower_of_not_covers {c : Char} (hdotted : c.toNat ≠ 0x130)
    (h : ∀ run ∈ lowerRuns, ¬ Covers run c.toNat) : IsLower c := by
  constructor
  · rintro rfl
    exact h (0x3A3, 0x3AB, 1, 0x3C3) (by decide) ⟨by decide, by decide, by decide⟩
  · rw [lowerChar, if_neg hdotted]
    rcases mapByRuns_cases lowerRuns c.toNat with ⟨hsame, -⟩ | ⟨run, hrun, hcovers, -⟩
    · rw [hsame, Char.ofNat_toNat]
    · exact absurd hcovers (h run hrun)

/-- The form of a letter in a run has no other form, and is no blank. -/
theorem isLower_imageIn {run : Run} (hrun : run ∈ lowerRuns) {n : Nat} (hn : Covers run n) :
    IsLower (Char.ofNat (imageIn run n)) ∧ isBlank (Char.ofNat (imageIn run n)) = false := by
  have hmisses : ∀ other ∈ otherRuns ++ blankRuns ++ lowerRuns,
      ¬ Covers other (imageIn run n) := by
    intro other hother
    have hall := List.all_eq_true.mp lowerRuns_miss run hrun
    exact not_covers_imageIn (List.all_eq_true.mp hall other hother) hn
  have hdotted := hmisses (0x130, 0x130, 1, 0) (by simp [otherRuns])
  have hhalves := hmisses (0xD800, 0xDFFF, 1, 0) (by simp [otherRuns])
  have hbound := imageIn_lt hrun hn
  simp only [Covers, Nat.mod_one, and_true] at hdotted hhalves
  have hcode : (Char.ofNat (imageIn run n)).toNat = imageIn run n := by
    apply toNat_ofNat
    rw [Nat.isValidChar]
    omega
  constructor
  · apply isLower_of_not_covers
    · omega
    · intro other hother
      rw [hcode]
      exact hmisses other (by simp [hother])
  · rw [← Bool.not_eq_true]
    intro hblank
    obtain ⟨other, hother, hcovers⟩ := exists_covers_of_isBlank hblank
    rw [hcode] at hcovers
    exact hmisses other (by simp [hother]) hcovers

theorem mem_lowerChar {c d : Char} (h : d ∈ lowerChar c) :
    IsLower d ∧ (isBlank d = true → isBlank c = true) := by
  rw [lowerChar] at h
  split at h
  · rcases List.mem_pair.mp h with rfl | rfl
    · exact ⟨by decide +kernel, nofun⟩
    · exact ⟨by decide +kernel, nofun⟩
  · next hdotted =>
    rw [List.mem_singleton] at h
    rcases mapByRuns_cases lowerRuns c.toNat with ⟨hsame, hnone⟩ | ⟨run, hrun, hcovers, himage⟩
    · rw [hsame, Char.ofNat_toNat] at h
      subst h
      exact ⟨isLower_of_not_covers hdotted hnone, id⟩
    · rw [himage] at h
      subst h
      obtain ⟨hlower, hblank⟩ := isLower_imageIn hrun hcovers
      simp [hlower, hblank]

theorem lowerChar_ne_nil (c : Char) : lowerChar c ≠ [] := by
  rw [lowerChar]
  split
  · exact List.cons_ne_nil _ _
  · exact List.cons_ne_nil _ _

/-! ## Texts -/

/-- What is in lower case has no other form, whatever stands around it. -/
theorem lowerAfter_eq_self {s : List Char} (h : ∀ c ∈ s, IsLower c) (before : List Char) :
    lowerAfter before s = s := by
  induction s generalizing before with
  | nil => rfl
  | cons c rest ih =>
    obtain ⟨hsigma, hchar⟩ := h c List.mem_cons_self
    have hrest := ih (fun d hd => h d (List.mem_cons_of_mem c hd)) (c :: before)
    simp [lowerAfter, hsigma, hchar, hrest]

theorem isLower_of_mem_lowerAfter {before s : List Char} {d : Char}
    (h : d ∈ lowerAfter before s) : IsLower d := by
  induction s generalizing before with
  | nil => simp [lowerAfter] at h
  | cons c rest ih =>
    rw [lowerAfter, List.mem_append] at h
    rcases h with h | h
    · split at h
      · split at h
        · rw [List.mem_singleton.mp h]
          decide +kernel
        · rw [List.mem_singleton.mp h]
          decide +kernel
      · exact (mem_lowerChar h).1
    · exact ih h

theorem lower_eq_self_iff {s : List Char} : lower s = s ↔ ∀ c ∈ s, IsLower c := by
  constructor
  · intro h c hc
    rw [← h] at hc
    exact isLower_of_mem_lowerAfter hc
  · intro h
    exact lowerAfter_eq_self h []

theorem exists_head_of_lower {s : List Char} {d : Char} (h : (lower s).head? = some d) :
    ∃ c, s.head? = some c ∧ (isBlank d = true → isBlank c = true) := by
  cases s with
  | nil => simp [lower, lowerAfter] at h
  | cons c rest =>
    refine ⟨c, rfl, ?_⟩
    rw [lower, lowerAfter] at h
    by_cases hsigma : c = 'Σ'
    · have hblank : isBlank d = false := by
        rw [if_pos hsigma] at h
        split at h
        · obtain rfl : 'ς' = d := by simpa using h
          decide
        · obtain rfl : 'σ' = d := by simpa using h
          decide
      simp [hblank]
    · rw [if_neg hsigma, List.head?_append_of_ne_nil _ (lowerChar_ne_nil c)] at h
      exact (mem_lowerChar (List.mem_of_head? h)).2

end DataParallel.Text

import DataParallel.Device.Spec
import DataParallel.Proofs.Text.Lower
import DataParallel.Proofs.Text.Whole

/-!
# Device specs are read back

The text of a device is a spec of the device: what was read from any spec is read again from its
text.  The type of a device that was read is in lower case, begins with no blank and holds neither
of the marks that stand before a number; this is all that the text needs to be read.  Blanks at the
end of the type and closing parentheses in it do no harm, since a number stands behind them.
-/

namespace DataParallel.Device

open Text

/-- A type that can stand in front of a number. -/
structure IsKind (kind : List Char) : Prop where
  nonempty : kind ≠ []
  lower : ∀ c ∈ kind, IsLower c
  head : ∀ c ∈ kind.head?, isBlank c = false
  noColon : ':' ∉ kind
  noOpening : '(' ∉ kind

/-! ## The text of a device as a spec -/

theorem isLower_of_lt {c : Char} (h : c.toNat < 'A'.toNat) : IsLower c := by
  have hfirsts : ∀ run ∈ lowerRuns, 'A'.toNat ≤ run.1 := by decide +kernel
  apply isLower_of_not_covers
  · have hA : 'A'.toNat = 0x41 := rfl
    omega
  · intro run hrun hcovers
    exact absurd (Nat.le_trans (hfirsts run hrun) hcovers.1) (Nat.not_le_of_lt h)

theorem isLower_of_mem_intText {n : Int} {c : Char} (h : c ∈ (Number.intText n).toList) :
    IsLower c := by
  apply isLower_of_lt
  rcases mem_intText h with rfl | hdigit
  · decide
  · simp only [Char.isDigit, ge_iff_le, Bool.and_eq_true, decide_eq_true_eq] at hdigit
    exact Nat.lt_of_le_of_lt hdigit.2 (by decide)

theorem not_mem_intText {n : Int} {c : Char} (hminus : c ≠ '-') (hdigit : c.isDigit = false) :
    c ∉ (Number.intText n).toList := by
  intro h
  rcases mem_intText h with rfl | h
  · contradiction
  · rw [hdigit] at h
    contradiction

theorem intText_ne_nil (n : Int) : (Number.intText n).toList ≠ [] := by
  rw [toList_intText]
  exact List.append_ne_nil_of_right_ne_nil _ Nat.toDigits_ne_nil

theorem toList_text (kind : String) (index : Int) : (unit kind index).text.toList =
    kind.toList ++ '(' :: (Number.intText index).toList ++ [')'] := by
  simp [text]

theorem strip_text {kind : String} (hkind : IsKind kind.toList) (index : Int) :
    strip (unit kind index).text.toList = (unit kind index).text.toList := by
  rw [toList_text]
  apply trim_eq_self
  · intro c hc
    apply hkind.head c
    rwa [List.append_assoc, List.head?_append_of_ne_nil _ hkind.nonempty] at hc
  · intro c hc
    rw [List.getLast?_concat, Option.mem_some_iff] at hc
    subst hc
    decide

theorem lower_text {kind : String} (hkind : IsKind kind.toList) (index : Int) :
    lower (unit kind index).text.toList = (unit kind index).text.toList := by
  rw [lower_eq_self_iff, toList_text]
  intro c hc
  simp only [List.append_assoc, List.mem_append, List.cons_append, List.mem_cons,
    List.not_mem_nil, or_false] at hc
  rcases hc with hc | rfl | hc | rfl
  · exact hkind.lower c hc
  · exact isLower_of_lt (by decide)
  · exact isLower_of_mem_intText hc
  · exact isLower_of_lt (by decide)

theorem map_mark_eq_self {s : List Char} (h : '(' ∉ s) :
    s.map (fun c => if c = '(' then ':' else c) = s := by
  conv_rhs => rw [← List.map_id s]
  apply List.map_congr_left
  rintro c hc
  apply if_neg
  rintro rfl
  exact h hc

/-- The opening parenthesis becomes the colon, and the closing one goes. -/
theorem normalForm_text {kind : String} (hkind : IsKind kind.toList) (index : Int) :
    normalForm (unit kind index).text.toList =
      kind.toList ++ ':' :: (Number.intText index).toList := by
  have hmarked : (unit kind index).text.toList.map (fun c => if c = '(' then ':' else c) =
      (kind.toList ++ ':' :: (Number.intText index).toList) ++ [')'] := by
    simp [toList_text, map_mark_eq_self hkind.noOpening,
      map_mark_eq_self (not_mem_intText (by decide) (by decide))]
  have hlast : ∀ hne, (kind.toList ++ ':' :: (Number.intText index).toList).getLast hne ≠ ')' := by
    intro hne hclosing
    have hmem : ')' ∈ (Number.intText index).toList := by
      rw [← hclosing, List.getLast_append_of_right_ne_nil _ _ (List.cons_ne_nil _ _),
        List.getLast_cons (intText_ne_nil index)]
      exact List.getLast_mem _
    exact not_mem_intText (by decide) (by decide) hmem
  rw [normalForm, strip_text hkind, lower_text hkind, hmarked, dropRight_eq_rdropWhile,
    List.rdropWhile_concat_pos _ _ _ (by decide), List.rdropWhile_eq_self_iff]
  simpa using hlast

theorem ofSpec_text {kind : String} (hkind : IsKind kind.toList) {index : Int}
    (hindex : (Number.natDigits index.natAbs).length ≤ maxDigits) :
    ofSpec (unit kind index).text = .ok (unit kind index) := by
  have hstands : ∀ c ∈ kind.toList, (c != ':') = true := by
    intro c hc
    rw [bne_iff_ne]
    rintro rfl
    exact hkind.noColon hc
  have htake : (normalForm (unit kind index).text.toList).takeWhile (· != ':') = kind.toList := by
    rw [normalForm_text hkind, List.takeWhile_append_of_pos hstands]
    simp
  have hdrop : (normalForm (unit kind index).text.toList).dropWhile (· != ':') =
      ':' :: (Number.intText index).toList := by
    rw [normalForm_text hkind, List.dropWhile_append_of_pos hstands]
    simp
  rw [ofSpec]
  simp only [htake, hdrop, List.drop_one, List.tail_cons]
  rw [if_neg hkind.nonempty, if_neg (intText_ne_nil index), readInt?_intText hindex,
    String.ofList_toList]

/-! ## Devices that were read -/

/-- The type that is read from a spec. -/
def kindOf (spec : List Char) : List Char := (normalForm spec).takeWhile (· != ':')

theorem kindOf_begins (spec : List Char) : kindOf spec <+:
    (lower (strip spec)).map (fun c => if c = '(' then ':' else c) := by
  have hkind : kindOf spec <+: normalForm spec := List.takeWhile_prefix _
  have hnormal : normalForm spec <+: (lower (strip spec)).map _ := List.rdropWhile_prefix _ _
  exact hkind.trans hnormal

theorem ne_colon_of_mem_kindOf {spec : List Char} {c : Char} (h : c ∈ kindOf spec) : c ≠ ':' := by
  simpa using List.mem_takeWhile_imp h

/-- A character before the first colon stood in the spec already. -/
theorem eq_of_mark_eq {c d : Char} (hd : d ≠ ':') (h : (if c = '(' then ':' else c) = d) :
    c = d ∧ d ≠ '(' := by
  split at h
  · exact absurd h.symm hd
  · next hc =>
    subst h
    exact ⟨rfl, hc⟩

theorem isKind_kindOf {spec : List Char} (h : kindOf spec ≠ []) : IsKind (kindOf spec) := by
  have hmem : ∀ d ∈ kindOf spec, d ∈ lower (strip spec) ∧ d ≠ '(' := by
    intro d hd
    obtain ⟨c, hc, hmark⟩ := List.mem_map.mp ((kindOf_begins spec).subset hd)
    obtain ⟨rfl, hopening⟩ := eq_of_mark_eq (ne_colon_of_mem_kindOf hd) hmark
    exact ⟨hc, hopening⟩
  refine ⟨h, ?_, ?_, ?_, ?_⟩
  · exact fun d hd => isLower_of_mem_lowerAfter (hmem d hd).1
  · intro d hd
    have hfirst := head?_eq_of_begins (kindOf_begins spec) hd
    rw [List.head?_map, Option.map_eq_some_iff] at hfirst
    obtain ⟨c, hc, hmark⟩ := hfirst
    obtain ⟨rfl, -⟩ := eq_of_mark_eq (ne_colon_of_mem_kindOf (List.mem_of_head? hd)) hmark
    obtain ⟨b, hb, hblank⟩ := exists_head_of_lower hc
    have hkept := head_trim hb
    rw [← Bool.not_eq_true] at hkept ⊢
    exact fun hc => hkept (hblank hc)
  · exact fun hcolon => ne_colon_of_mem_kindOf hcolon rfl
  · exact fun hopening => (hmem _ hopening).2 rfl

/-- What a spec is read as: a type, and a number with no more digits than a text may have. -/
theorem ofSpec_eq_ok {spec : String} {device : Device} (h : ofSpec spec = .ok device) :
    ∃ kind index, device = unit kind index ∧ IsKind kind.toList ∧
      (Number.natDigits index.natAbs).length ≤ maxDigits := by
  rw [ofSpec] at h
  change (if kindOf spec.toList = [] then _ else _) = _ at h
  split at h
  · cases h
  · next hkind =>
    have hkind' := isKind_kindOf hkind
    refine ⟨String.ofList (kindOf spec.toList), ?_⟩
    rw [String.toList_ofList]
    split at h
    · exact ⟨0, (Except.ok.inj h).symm, hkind', by decide⟩
    · split at h
      · next n hn =>
        exact ⟨n, (Except.ok.inj h).symm, hkind', length_natDigits_of_readInt? hn⟩
      · cases h

/-! ## Reading again -/

/-- A type that may be written in a spec: in lower case, without blanks around it and without the
marks that stand before a number. -/
structure IsPlain (kind : String) : Prop where
  nonempty : kind ≠ ""
  lower : lower kind.toList = kind.toList
  strip : strip kind.toList = kind.toList
  noColon : ':' ∉ kind.toList
  noOpening : '(' ∉ kind.toList

theorem IsPlain.isKind {kind : String} (h : IsPlain kind) : IsKind kind.toList where
  nonempty := by simpa using h.nonempty
  lower := lower_eq_self_iff.mp h.lower
  head := by
    intro c hc
    rw [← h.strip] at hc
    exact head_trim hc
  noColon := h.noColon
  noOpening := h.noOpening

/-- The text of a device that was read is read as the same device, and so is the text of every
device with a plain type and a number of no more digits than a text may have. -/
theorem spec_read_back :
    (∀ spec device, ofSpec spec = .ok device → ofSpec device.text = .ok device) ∧
    ∀ kind index, IsPlain kind → (Number.natDigits index.natAbs).length ≤ maxDigits →
      ofSpec (unit kind index).text = .ok (unit kind index) := by
  constructor
  · intro spec device h
    obtain ⟨kind, index, rfl, hkind, hindex⟩ := ofSpec_eq_ok h
    exact ofSpec_text hkind hindex
  · intro kind index hkind hindex
    exact ofSpec_text hkind.isKind hindex

theorem spec_read_back_gpu :
    ofSpec " GPU( +٣_1 ))" = .ok (gpu 31) ∧ ofSpec (gpu 31).text = .ok (gpu 31) ∧
      IsPlain "tpu ß)x" ∧ ofSpec (unit "tpu ß)x" (-7)).text = .ok (unit "tpu ß)x" (-7)) := by
  have hread : ofSpec " GPU( +٣_1 ))" = .ok (gpu 31) := by rfl
  have hplain : IsPlain "tpu ß)x" :=
    ⟨by decide, by decide +kernel, by decide, by decide, by decide⟩
  exact ⟨hread, spec_read_back.1 _ _ hread, hplain, spec_read_back.2 _ (-7) hplain (by decide)⟩

end DataParallel.Device

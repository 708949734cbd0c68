import DataParallel.Json.Writer
import DataParallel.Json.Reader
import DataParallel.Proofs.Number.Shortest
import DataParallel.Proofs.Text.Whole

/-!
# Numbers are read back from JSON

Whole numbers and finite floats are read from the digits that are written for them, if what stands
behind them cannot belong to the number.  A float is written in three notations, and each is read
as a decimal that is the same number as the shortest decimal of the float.
-/

namespace DataParallel.Json

open Number

/-! ## Digits -/

/-- A text that begins with nothing that belongs to a number. -/
def Stops (rest : List Char) : Prop :=
  ∀ c ∈ rest.head?, c.isDigit = false ∧ c ≠ '.' ∧ c ≠ 'e' ∧ c ≠ 'E'

/-- A text of digits alone. -/
def Digits (ds : List Char) : Prop := ∀ c ∈ ds, c.isDigit = true

theorem takeWhile_digits {ds rest : List Char} (hds : Digits ds)
    (hrest : ∀ c ∈ rest.head?, c.isDigit = false) :
    (ds ++ rest).takeWhile Char.isDigit = ds := by
  have hnone : rest.takeWhile Char.isDigit = [] := by
    cases rest with
    | nil => rfl
    | cons c cs => rw [List.takeWhile_cons, hrest c rfl]; rfl
  rw [List.takeWhile_append_of_pos hds, hnone, List.append_nil]

theorem dropWhile_digits {ds rest : List Char} (hds : Digits ds)
    (hrest : ∀ c ∈ rest.head?, c.isDigit = false) :
    (ds ++ rest).dropWhile Char.isDigit = rest := by
  rw [List.dropWhile_append_of_pos hds]
  cases rest with
  | nil => rfl
  | cons c cs => rw [List.dropWhile_cons, hrest c rfl]; rfl

theorem ofDigits_eq (ds : List Char) : ofDigits ds = Nat.ofDigitChars 10 ds 0 :=
  Nat.ofDigitChars_eq_foldl.symm

theorem ofDigits_natDigits (n : Nat) : ofDigits (natDigits n) = n := by
  rw [ofDigits_eq, natDigits, Nat.ofDigitChars_ten_toDigits]

theorem ofDigits_zeros_append (k : Nat) (ds : List Char) :
    ofDigits (List.replicate k '0' ++ ds) = ofDigits ds := by
  rw [ofDigits_eq, ofDigits_eq, Nat.ofDigitChars_append, Nat.ofDigitChars_replicate_zero,
    Nat.mul_zero]

theorem ofDigits_append_zeros (ds : List Char) (k : Nat) :
    ofDigits (ds ++ List.replicate k '0') = 10 ^ k * ofDigits ds := by
  rw [ofDigits_eq, ofDigits_eq, Nat.ofDigitChars_append, Nat.ofDigitChars_replicate_zero]

theorem digits_natDigits (n : Nat) : Digits (natDigits n) :=
  fun _ hc => Text.isDigit_of_mem_natDigits hc

/-- The digits of an integer part: a zero alone, or digits that do not begin with one. -/
structure Whole (ds : List Char) : Prop where
  digits : Digits ds
  nonempty : ds ≠ []
  leading : ds = ['0'] ∨ ds.head? ≠ some '0'

theorem readWhole_append {ds rest : List Char} (hds : Whole ds)
    (hrest : ∀ c ∈ rest.head?, c.isDigit = false) : readWhole (ds ++ rest) = some (ds, rest) := by
  rcases hds.leading with rfl | hleading
  · rfl
  · obtain ⟨c, cs, rfl⟩ := List.exists_cons_of_ne_nil hds.nonempty
    have hc : c ≠ '0' := fun h => hleading (congrArg some h)
    have htake := takeWhile_digits hds.digits hrest
    have hdrop := dropWhile_digits hds.digits hrest
    rw [List.cons_append] at htake hdrop ⊢
    rw [readWhole, htake, hdrop]
    · rfl
    · exact fun _ h => hc (List.cons.inj h).1

theorem ofDigits_lt {ds : List Char} (hds : Digits ds) : ofDigits ds < 10 ^ ds.length := by
  have hvalues : ∀ d ∈ ds.map fun c => c.toNat - 48, d < 10 := by
    intro d hd
    obtain ⟨c, hc, rfl⟩ := List.mem_map.mp hd
    exact Text.lt_of_digitValue? (Text.digitValue?_of_isDigit (hds c hc))
  have hlt := Text.ofDigits_lt hvalues
  rwa [Text.ofDigits_map, ← ofDigits_eq, List.length_map] at hlt

theorem whole_natDigits (n : Nat) : Whole (natDigits n) where
  digits := digits_natDigits n
  nonempty := Nat.toDigits_ne_nil
  leading := by
    rcases h : natDigits n with _ | ⟨c, cs⟩
    · exact absurd h Nat.toDigits_ne_nil
    · by_cases hc : c = '0'
      · subst hc
        -- digits behind a zero are enough, which leaves no room for any
        have hcs : Digits cs := fun d hd => digits_natDigits n d (h ▸ List.mem_cons_of_mem _ hd)
        have hvalue : n = ofDigits cs := by
          rw [← ofDigits_natDigits n, h]
          exact ofDigits_zeros_append 1 cs
        have hlength : (natDigits n).length = cs.length + 1 := by rw [h, List.length_cons]
        have hnone : cs.length = 0 := by
          by_contra hpos
          have hle := (Nat.length_toDigits_le_iff (by decide) (Nat.pos_of_ne_zero hpos)).mpr
            (hvalue ▸ ofDigits_lt hcs)
          rw [← natDigits, hlength] at hle
          omega
        rw [List.eq_nil_of_length_eq_zero hnone]
        exact Or.inl rfl
      · exact Or.inr fun hhead => hc (Option.some.inj hhead)

/-- A whole number by its sign and its digits. -/
theorem signed_natAbs (n : Int) :
    (if decide (n < 0) = true then -(n.natAbs : Int) else n.natAbs) = n := by
  by_cases hsign : n < 0
  · simp only [hsign, decide_true, if_true]
    omega
  · simp only [hsign, decide_false, Bool.false_eq_true, if_false]
    omega

/-! ## The parts of a number -/

theorem readFraction_append {ds rest : List Char} (hds : Digits ds) (hne : ds ≠ [])
    (hrest : ∀ c ∈ rest.head?, c.isDigit = false) :
    readFraction ('.' :: (ds ++ rest)) = some (ds, rest) := by
  have hsome : ¬ds.isEmpty = true := by simpa using hne
  rw [readFraction, takeWhile_digits hds hrest, dropWhile_digits hds hrest, if_neg hsome]

theorem readFraction_none {rest : List Char} (h : rest.head? ≠ some '.') :
    readFraction rest = none := by
  rcases rest with _ | ⟨c, cs⟩
  · rfl
  · have hc : c ≠ '.' := fun hc => h (congrArg some hc)
    rw [readFraction]
    exact fun _ h => hc (List.cons.inj h).1

theorem readExponent_none {rest : List Char} (hrest : Stops rest) : readExponent rest = none := by
  rcases rest with _ | ⟨c, cs⟩
  · rfl
  · obtain ⟨-, -, he, hE⟩ := hrest c rfl
    rw [readExponent]
    exact if_neg (by simp [he, hE])

/-- The digits of an exponent: at least two. -/
def exponentDigits (e : Int) : List Char :=
  if (natDigits e.natAbs).length < 2 then '0' :: natDigits e.natAbs else natDigits e.natAbs

theorem ofDigits_exponentDigits (e : Int) : ofDigits (exponentDigits e) = e.natAbs := by
  rw [exponentDigits]
  split
  · exact (ofDigits_zeros_append 1 _).trans (ofDigits_natDigits _)
  · exact ofDigits_natDigits _

theorem digits_exponentDigits (e : Int) : Digits (exponentDigits e) := by
  rw [exponentDigits]
  split
  · intro c hc
    rcases List.mem_cons.mp hc with rfl | hc
    · rfl
    · exact digits_natDigits _ c hc
  · exact digits_natDigits _

theorem exponentDigits_ne_nil (e : Int) : exponentDigits e ≠ [] := by
  rw [exponentDigits]
  split
  · exact List.cons_ne_nil _ _
  · exact Nat.toDigits_ne_nil

theorem readExponent_append (e : Int) {rest : List Char} (hrest : Stops rest) :
    readExponent ('e' :: (exponentText e ++ rest)) = some (e, rest) := by
  have hstop : ∀ c ∈ rest.head?, c.isDigit = false := fun c hc => (hrest c hc).1
  have htake := takeWhile_digits (digits_exponentDigits e) hstop
  have hdrop := dropWhile_digits (digits_exponentDigits e) hstop
  have htext : exponentText e = (if e < 0 then '-' else '+') :: exponentDigits e := rfl
  have hsign : readSign (exponentText e ++ rest) = (decide (e < 0), exponentDigits e ++ rest) := by
    rw [htext]
    by_cases he : e < 0
    · simp [he, readSign]
    · simp [he, readSign]
  rw [readExponent]
  simp only [hsign, htake, hdrop, ofDigits_exponentDigits, signed_natAbs]
  simp [exponentDigits_ne_nil]

/-! ## Numbers without sign -/

theorem Stops.readFraction {rest : List Char} (hrest : Stops rest) : readFraction rest = none :=
  readFraction_none fun h => (hrest '.' h).2.1 rfl

theorem readUnsigned_whole (negative : Bool) {ds rest : List Char} (hds : Whole ds)
    (hlength : ds.length ≤ Text.maxDigits) (hrest : Stops rest) :
    readUnsigned negative (ds ++ rest) =
      some (.int (if negative then -(ofDigits ds : Int) else ofDigits ds), rest) := by
  rw [readUnsigned, readWhole_append hds fun c hc => (hrest c hc).1]
  simp only [Option.bind_eq_bind, Option.bind_some, hrest.readFraction, Option.elim_none,
    readExponent_none hrest]
  rw [if_neg (by omega)]
  rfl

/-- A number with a point and no exponent. -/
theorem readUnsigned_point (negative : Bool) {ds places rest : List Char} (hds : Whole ds)
    (hplaces : Digits places) (hne : places ≠ []) (hrest : Stops rest) :
    readUnsigned negative (ds ++ '.' :: (places ++ rest)) =
      some (.float (floatOfDecimal negative (ofDigits (ds ++ places)) (-places.length)), rest) := by
  have hpoint : ∀ c ∈ ('.' :: (places ++ rest)).head?, c.isDigit = false := by
    rintro c ⟨⟩
    rfl
  rw [readUnsigned, readWhole_append hds hpoint]
  simp only [Option.bind_eq_bind, Option.bind_some,
    readFraction_append hplaces hne fun c hc => (hrest c hc).1, Option.elim_some,
    readExponent_none hrest, Option.elim_none, Int.zero_sub]
  rfl

/-- A number with an exponent and no point. -/
theorem readUnsigned_exponent (negative : Bool) {ds rest : List Char} (hds : Whole ds) (e : Int)
    (hrest : Stops rest) :
    readUnsigned negative (ds ++ 'e' :: (exponentText e ++ rest)) =
      some (.float (floatOfDecimal negative (ofDigits ds) e), rest) := by
  have hmark : ∀ c ∈ ('e' :: (exponentText e ++ rest)).head?, c.isDigit = false := by
    rintro c ⟨⟩
    rfl
  have hfraction : readFraction ('e' :: (exponentText e ++ rest)) = none :=
    readFraction_none nofun
  rw [readUnsigned, readWhole_append hds hmark]
  simp only [Option.bind_eq_bind, Option.bind_some, hfraction, Option.elim_none,
    readExponent_append e hrest, Option.elim_some, List.append_nil, List.length_nil]
  simp

/-- A number with a point and an exponent. -/
theorem readUnsigned_both (negative : Bool) {ds places rest : List Char} (hds : Whole ds)
    (hplaces : Digits places) (hne : places ≠ []) (e : Int) (hrest : Stops rest) :
    readUnsigned negative (ds ++ '.' :: (places ++ 'e' :: (exponentText e ++ rest))) =
      some (.float (floatOfDecimal negative (ofDigits (ds ++ places)) (e - places.length)),
        rest) := by
  have hpoint : ∀ c ∈ ('.' :: (places ++ 'e' :: (exponentText e ++ rest))).head?,
      c.isDigit = false := by
    rintro c ⟨⟩
    rfl
  have hmark : ∀ c ∈ ('e' :: (exponentText e ++ rest)).head?, c.isDigit = false := by
    rintro c ⟨⟩
    rfl
  rw [readUnsigned, readWhole_append hds hpoint]
  simp only [Option.bind_eq_bind, Option.bind_some, readFraction_append hplaces hne hmark,
    Option.elim_some, readExponent_append e hrest]
  rfl

/-! ## Floats -/

theorem floatOfDecimal_congr (negative : Bool) {digits : Nat} {exponent : Int} {d : Decimal}
    (h : (digits * 10 ^ exponent : ℚ) = d.value) :
    floatOfDecimal negative digits exponent = floatOfDecimal negative d.digits d.exponent := by
  rw [floatOfDecimal, floatOfDecimal, BinaryFormat.ofDecimal_congr _ negative h]

theorem head_natDigits {n : Nat} (hn : n ≠ 0) : (natDigits n).head? ≠ some '0' := by
  rcases (whole_natDigits n).leading with hzero | hhead
  · have hvalue := ofDigits_natDigits n
    rw [hzero] at hvalue
    exact absurd hvalue.symm hn
  · exact hhead

/-- Digits before and behind a point, given the digits with the zeros that they need. -/
theorem positional_of_pos {digits padded : List Char} {whole : Int} {w : Nat} (hpos : 0 < whole)
    (hw : whole.toNat = w) (hpadded : digits ++ List.replicate (w - digits.length) '0' = padded) :
    positional digits whole =
      padded.take w ++ '.' :: (if (padded.drop w).isEmpty then ['0'] else padded.drop w) := by
  rw [← hpadded, ← hw, positional, if_neg (by omega)]

section Notations

variable (negative : Bool) {d : Decimal} {rest : List Char}

theorem readUnsigned_below_one (hrest : Stops rest)
    (hwhole : d.exponent + (natDigits d.digits).length ≤ 0) :
    readUnsigned negative
        (positional (natDigits d.digits) (d.exponent + (natDigits d.digits).length) ++ rest) =
      some (.float (floatOfDecimal negative d.digits d.exponent), rest) := by
  generalize hzeros : (-(d.exponent + (natDigits d.digits).length)).toNat = k
  have hplaces : Digits (List.replicate k '0' ++ natDigits d.digits) := by
    intro c hc
    rcases List.mem_append.mp hc with hc | hc
    · rw [List.eq_of_mem_replicate hc]
      rfl
    · exact digits_natDigits _ c hc
  have hne : List.replicate k '0' ++ natDigits d.digits ≠ [] :=
    List.append_ne_nil_of_right_ne_nil _ Nat.toDigits_ne_nil
  have hlength : -((List.replicate k '0' ++ natDigits d.digits).length : Int) = d.exponent := by
    rw [List.length_append, List.length_replicate]
    omega
  have hvalue : ofDigits (['0'] ++ (List.replicate k '0' ++ natDigits d.digits)) = d.digits := by
    exact (ofDigits_zeros_append 1 _).trans
      ((ofDigits_zeros_append k _).trans (ofDigits_natDigits _))
  have hread := readUnsigned_point negative (whole_natDigits 0) hplaces hne hrest
  have hzero : natDigits 0 = ['0'] := rfl
  rw [hzero, hvalue, hlength] at hread
  rw [positional, if_pos hwhole, hzeros]
  exact hread

theorem readUnsigned_between (hd : d.digits ≠ 0) (hrest : Stops rest)
    (hpositive : 0 < d.exponent + (natDigits d.digits).length) (hexponent : d.exponent < 0) :
    readUnsigned negative
        (positional (natDigits d.digits) (d.exponent + (natDigits d.digits).length) ++ rest) =
      some (.float (floatOfDecimal negative d.digits d.exponent), rest) := by
  generalize hw : (d.exponent + (natDigits d.digits).length).toNat = w
  have hpadding : natDigits d.digits ++ List.replicate (w - (natDigits d.digits).length) '0' =
      natDigits d.digits := by
    rw [Nat.sub_eq_zero_of_le (by omega), List.replicate_zero, List.append_nil]
  have hds : Whole ((natDigits d.digits).take w) := by
    refine ⟨fun c hc => digits_natDigits _ c (List.mem_of_mem_take hc), ?_, Or.inr ?_⟩
    · exact List.ne_nil_of_length_pos (by rw [List.length_take]; omega)
    · rw [List.head?_take, if_neg (by omega)]
      exact head_natDigits hd
  have hplaces : Digits ((natDigits d.digits).drop w) :=
    fun c hc => digits_natDigits _ c (List.mem_of_mem_drop hc)
  have hne : (natDigits d.digits).drop w ≠ [] :=
    List.ne_nil_of_length_pos (by rw [List.length_drop]; omega)
  have hlength : -(((natDigits d.digits).drop w).length : Int) = d.exponent := by
    rw [List.length_drop]
    omega
  have hread := readUnsigned_point negative hds hplaces hne hrest
  rw [List.take_append_drop, ofDigits_natDigits, hlength] at hread
  rw [positional_of_pos hpositive hw hpadding, if_neg (by simpa using hne), List.append_assoc,
    List.cons_append]
  exact hread

theorem readUnsigned_integral (hd : d.digits ≠ 0) (hrest : Stops rest)
    (hexponent : 0 ≤ d.exponent) :
    readUnsigned negative
        (positional (natDigits d.digits) (d.exponent + (natDigits d.digits).length) ++ rest) =
      some (.float (floatOfDecimal negative d.digits d.exponent), rest) := by
  generalize hw : (d.exponent + (natDigits d.digits).length).toNat = w
  obtain ⟨k, hk⟩ := Int.eq_ofNat_of_zero_le hexponent
  have hpos : 0 < (natDigits d.digits).length := List.length_pos_of_ne_nil Nat.toDigits_ne_nil
  have hpadding : natDigits d.digits ++ List.replicate (w - (natDigits d.digits).length) '0' =
      natDigits d.digits ++ List.replicate k '0' := by
    rw [show w - (natDigits d.digits).length = k by omega]
  have hlength : (natDigits d.digits ++ List.replicate k '0').length = w := by
    rw [List.length_append, List.length_replicate]
    omega
  have hds : Whole (natDigits d.digits ++ List.replicate k '0') := by
    refine ⟨fun c hc => ?_, List.append_ne_nil_of_left_ne_nil Nat.toDigits_ne_nil _, Or.inr ?_⟩
    · rcases List.mem_append.mp hc with hc | hc
      · exact digits_natDigits _ c hc
      · rw [List.eq_of_mem_replicate hc]
        rfl
    · rw [List.head?_append_of_ne_nil _ (List.ne_nil_of_length_pos hpos)]
      exact head_natDigits hd
  have hplaces : Digits ['0'] := by
    intro c hc
    rw [List.mem_singleton.mp hc]
    rfl
  have hvalue : (ofDigits (natDigits d.digits ++ List.replicate k '0' ++ ['0']) *
      10 ^ (-(['0'].length : Int)) : ℚ) = d.value := by
    have htail : natDigits d.digits ++ List.replicate k '0' ++ ['0'] =
        natDigits d.digits ++ List.replicate (k + 1) '0' := by
      rw [List.append_assoc, ← List.replicate_succ']
    rw [htail, ofDigits_append_zeros, ofDigits_natDigits, Decimal.value, hk]
    push_cast
    rw [List.length_singleton, Nat.cast_one, zpow_neg_one, zpow_natCast]
    ring
  have hread := readUnsigned_point negative hds hplaces (List.cons_ne_nil _ _) hrest
  rw [floatOfDecimal_congr negative hvalue] at hread
  rw [positional_of_pos (by omega) hw hpadding, List.take_of_length_le (by omega),
    List.drop_of_length_le (by omega), List.append_assoc, List.cons_append]
  exact hread

theorem readUnsigned_scientific (hd : d.digits ≠ 0) (hrest : Stops rest) :
    readUnsigned negative
        (scientific (natDigits d.digits) (d.exponent + (natDigits d.digits).length - 1) ++ rest) =
      some (.float (floatOfDecimal negative d.digits d.exponent), rest) := by
  have hdigits := whole_natDigits d.digits
  have hvalue := ofDigits_natDigits d.digits
  have hhead := head_natDigits hd
  rcases hlist : natDigits d.digits with _ | ⟨c, _ | ⟨c', cs⟩⟩
  · exact absurd hlist Nat.toDigits_ne_nil
  · rw [hlist] at hdigits hvalue
    have hexponent : d.exponent + (([c] : List Char).length : Int) - 1 = d.exponent := by
      rw [List.length_singleton]
      omega
    have hread := readUnsigned_exponent negative hdigits d.exponent hrest
    rw [hvalue] at hread
    rw [hexponent, scientific]
    exact hread
  · rw [hlist] at hdigits hvalue hhead
    have hds : Whole [c] := by
      refine ⟨fun x hx => ?_, List.cons_ne_nil _ _, Or.inr hhead⟩
      exact hdigits.digits x (List.mem_singleton.mp hx ▸ List.mem_cons_self)
    have hplaces : Digits (c' :: cs) := fun x hx => hdigits.digits x (List.mem_cons_of_mem _ hx)
    generalize hleading : d.exponent + ((c :: c' :: cs).length : Int) - 1 = leading
    have hexponent : leading - ((c' :: cs).length : Int) = d.exponent := by
      rw [← hleading, List.length_cons (a := c)]
      omega
    have hread := readUnsigned_both negative hds hplaces (List.cons_ne_nil _ _) leading hrest
    have hall : ofDigits ([c] ++ c' :: cs) = d.digits := hvalue
    rw [hall, hexponent] at hread
    rw [scientific, List.cons_append, List.cons_append, List.append_assoc, List.cons_append]
    · exact hread
    · exact nofun

/-- A float is read from its shortest decimal, in whichever notation. -/
theorem readUnsigned_decimalText (hd : d.digits ≠ 0) (hrest : Stops rest) :
    readUnsigned negative (decimalText d ++ rest) =
      some (.float (floatOfDecimal negative d.digits d.exponent), rest) := by
  rw [decimalText]
  split
  · rw [Int.sub_add_cancel]
    rcases Int.lt_or_le 0 (d.exponent + (natDigits d.digits).length) with hpositive | hsmall
    · rcases Int.lt_or_le d.exponent 0 with hexponent | hexponent
      · exact readUnsigned_between negative hd hrest hpositive hexponent
      · exact readUnsigned_integral negative hd hrest hexponent
    · exact readUnsigned_below_one negative hrest hsmall
  · exact readUnsigned_scientific negative hd hrest

end Notations

/-! ## Numbers with their sign -/

theorem isDigit_of_readUnsigned {negative : Bool} {cs rest : List Char} {v : Value}
    (h : readUnsigned negative cs = some (v, rest)) : ∃ c ∈ cs.head?, c.isDigit = true := by
  rcases cs with _ | ⟨c, cs⟩
  · cases h
  · refine ⟨c, rfl, ?_⟩
    by_contra hc
    have hzero : c ≠ '0' := by
      rintro rfl
      exact hc rfl
    have hwhole : readWhole (c :: cs) = none := by
      rw [readWhole, List.takeWhile_cons, if_neg hc]
      · rfl
      · exact fun _ h => hzero (List.cons.inj h).1
    rw [readUnsigned, hwhole] at h
    cases h

/-- A word does not begin with a digit. -/
theorem readPlain_of_isDigit {c : Char} (hc : c.isDigit = true) (cs : List Char) :
    readPlain (c :: cs) = readUnsigned false (c :: cs) := by
  have hne : ∀ w : Char, w.isDigit = false → w ≠ c := by
    rintro w hw rfl
    rw [hc] at hw
    cases hw
  have hsign : c ≠ '-' := (hne '-' rfl).symm
  simp [readPlain, wordValues, afterWord?, hne 'n' rfl, hne 't' rfl, hne 'f' rfl, hne 'N' rfl,
    hne 'I' rfl, hne '-' rfl, hsign]

theorem readPlain_minus {c : Char} (hc : c.isDigit = true) (cs : List Char) :
    readPlain ('-' :: c :: cs) = readUnsigned true (c :: cs) := by
  have hne : 'I' ≠ c := by
    rintro rfl
    cases hc
  simp [readPlain, wordValues, afterWord?, hne]

/-- The sign of a number is read, and then the number. -/
theorem readPlain_signed {negative : Bool} {cs rest : List Char} {v : Value}
    (h : readUnsigned negative cs = some (v, rest)) :
    readPlain ((if negative then ['-'] else []) ++ cs) = some (v, rest) := by
  obtain ⟨c, hc, hdigit⟩ := isDigit_of_readUnsigned h
  obtain ⟨cs, rfl⟩ := List.head?_eq_some_iff.mp hc
  cases negative
  · exact (readPlain_of_isDigit hdigit _).trans h
  · exact (readPlain_minus hdigit _).trans h

theorem readPlain_int {n : Int} (hn : (natDigits n.natAbs).length ≤ Text.maxDigits)
    {rest : List Char} (hrest : Stops rest) :
    readPlain ((intText n).toList ++ rest) = some (.int n, rest) := by
  have hread := readUnsigned_whole (decide (n < 0)) (whole_natDigits n.natAbs) hn hrest
  rw [ofDigits_natDigits, signed_natAbs] at hread
  rw [Text.toList_intText, List.append_assoc]
  simpa only [decide_eq_true_eq] using readPlain_signed hread

theorem readPlain_float {x : Float} (hx : x.isFinite = true) {rest : List Char}
    (hrest : Stops rest) :
    readPlain ((floatTextWith words x).toList ++ rest) = some (.float x, rest) := by
  obtain ⟨negative, m, e, hvalue⟩ := exists_finite hx
  have htext : floatTextWith words x = String.ofList ((if negative then ['-'] else []) ++
      if m = 0 then ['0', '.', '0'] else decimalText (.shortest .binary64 m e)) := by
    rw [floatValue] at hvalue
    rw [floatTextWith, hvalue]
  rw [htext, String.toList_ofList, List.append_assoc]
  apply readPlain_signed
  by_cases hm : m = 0
  · subst hm
    have hplaces : Digits ['0'] := digits_natDigits 0
    have hread :=
      readUnsigned_point negative (whole_natDigits 0) hplaces (List.cons_ne_nil _ _) hrest
    have hzero : ofDigits (natDigits 0 ++ ['0']) = 0 := rfl
    rw [hzero, floatOfDecimal_zero hvalue] at hread
    exact hread
  · rw [if_neg hm, ← floatOfDecimal_shortest hvalue hm]
    have hdigits := digits_shortest_ne_zero x.toBits.toNat_lt hvalue hm
    exact readUnsigned_decimalText negative hdigits hrest

/-- A number begins with none of the marks of other values, and with no blank. -/
theorem head_of_readPlain {cs rest : List Char} {v : Value} (h : readPlain cs = some (v, rest)) :
    ∃ c ∈ cs.head?, isBlank c = false ∧ c ∉ ['"', '[', ']', '\x7b'] := by
  rcases cs with _ | ⟨c, cs⟩
  · cases h
  · have hother : ∀ d ∈ ['"', '[', ']', '\x7b', ' ', '\t', '\n', '\r'], c ≠ d := by
      intro d hd hcd
      subst hcd
      fin_cases hd <;> cases h
    refine ⟨c, rfl, by simp [isBlank, hother], fun hmark => hother c ?_ rfl⟩
    exact List.mem_append_left _ hmark

end DataParallel.Json

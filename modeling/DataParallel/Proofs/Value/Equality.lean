import DataParallel.Proofs.Number.Equality
import DataParallel.Value.Basic

/-!
# Equal keys

Values that can be keys are the same if and only if they have one normal form: a number is what it
is exactly, whichever of the three kinds it is of, and a tuple is the sequence of the forms of its
members.  So being the same is an equivalence on keys.
-/

namespace DataParallel

open Number

namespace Scalar

/-- What a number of one of the three kinds is exactly. -/
def exactly : Scalar → Exact
  | bool b => .multiple ((if b then 1 else 0) * 2 ^ finest)
  | int n => .multiple (n * 2 ^ finest)
  | float x => exactFloat x

theorem multiple_eq_iff {m n : Int} :
    Exact.multiple (m * 2 ^ finest) = .multiple (n * 2 ^ finest) ↔ m = n := by
  rw [Exact.multiple.injEq]
  exact Int.mul_eq_mul_right_iff (Int.pow_ne_zero (by decide))

theorem sameAsFloat_iff {n : Int} {x : Float} :
    sameAsFloat n x = true ↔ exactFloat x = .multiple (n * 2 ^ finest) := by
  rw [sameAsFloat]
  split
  · next negative m e h =>
    rw [exactFloat_eq_multiple h]
    simp only [Bool.and_eq_true, Bool.or_eq_true, beq_iff_eq]
  · next h =>
    refine ⟨nofun, fun hexact => ?_⟩
    rw [exactFloat, unpack_toModel] at hexact
    rcases hvalue : floatValue x with _ | negative | ⟨negative, m, e⟩
    · rw [hvalue] at hexact
      cases hexact
    · rw [hvalue] at hexact
      cases hexact
    · exact absurd hvalue (h negative m e)

theorem exactly_of_whole? {a : Scalar} {n : Int} (h : a.whole? = some n) :
    a.exactly = .multiple (n * 2 ^ finest) := by
  cases a <;> cases h <;> rfl

/-- Numbers are the same if and only if they are the same exactly. -/
theorem same_iff_exactly (a b : Scalar) : a.same b = true ↔ a.exactly = b.exactly := by
  rcases a with p | m | x <;> rcases b with q | n | y
  case float.float => exact same_iff_exactFloat
  case float.bool => exact sameAsFloat_iff
  case float.int => exact sameAsFloat_iff
  case bool.float => exact sameAsFloat_iff.trans eq_comm
  case int.float => exact sameAsFloat_iff.trans eq_comm
  all_goals
    rw [exactly_of_whole? rfl, exactly_of_whole? rfl, multiple_eq_iff]
    exact beq_iff_eq.trans Option.some_inj

end Scalar

namespace Value

/-- The normal form of a key; values that cannot be keys have one in common. -/
inductive Form where
  | null
  | number (n : Exact)
  | text (s : String)
  | broken (codes : List Nat)
  | bytes (bs : List UInt8)
  | tuple (members : List Form)
  | extension (code : Int) (data : List UInt8)
  | timestamp (seconds : Int) (nanoseconds : Nat)
  | other

mutual

/-- The normal form of a value. -/
def form : Value → Form
  | null => .null
  | bool b => .number (Scalar.bool b).exactly
  | int n => .number (Scalar.int n).exactly
  | float x => .number (Scalar.float x).exactly
  | text s => .text s
  | broken codes => .broken codes
  | bytes bs => .bytes bs
  | list _ => .other
  | tuple items => .tuple (forms items)
  | record _ => .other
  | array _ => .other
  | extension code data => .extension code data
  | timestamp s n => .timestamp s n
termination_by structural v => v

/-- The normal forms of values. -/
def forms : List Value → List Form
  | [] => []
  | v :: vs => form v :: forms vs
termination_by structural vs => vs

end

theorem form_of_scalar? {b : Value} {t : Scalar} (h : b.scalar? = some t) :
    b.form = .number t.exactly := by
  cases b <;> cases h <;> rfl

theorem form_ne_number {b : Value} (h : b.scalar? = none) (n : Exact) : b.form ≠ .number n := by
  cases b <;> cases h <;> exact nofun

/-- A number is compared with the number that a value is. -/
theorem number_same_iff (s : Scalar) (b : Value) :
    (b.scalar?.map s.same).getD false = true ↔ .number s.exactly = b.form := by
  rcases h : b.scalar? with _ | t
  · exact ⟨nofun, fun heq => absurd heq.symm (form_ne_number h _)⟩
  · rw [form_of_scalar? h, Form.number.injEq]
    exact Scalar.same_iff_exactly s t

mutual

/-- Keys are the same if and only if they have one normal form. -/
theorem same_iff_form {a b : Value} (ha : a.isKey = true) (hb : b.isKey = true) :
    a.same b = true ↔ a.form = b.form := by
  cases a with
  | bool p => exact number_same_iff (.bool p) b
  | int n => exact number_same_iff (.int n) b
  | float x => exact number_same_iff (.float x) b
  | tuple as =>
    cases b with
    | tuple bs =>
      rw [form, form, Form.tuple.injEq]
      exact sameItems_iff_forms ha hb
    | _ => exact ⟨nofun, nofun⟩
  | list as => cases ha
  | record as => cases ha
  | array rows => cases ha
  | _ => cases b <;> simp [same, form]
termination_by structural a

theorem sameItems_iff_forms {as bs : List Value} (ha : areKeys as = true)
    (hb : areKeys bs = true) : sameItems as bs = true ↔ forms as = forms bs := by
  cases as with
  | nil => cases bs <;> simp [sameItems, forms]
  | cons a as =>
    cases bs with
    | nil => simp [sameItems, forms]
    | cons b bs =>
      rw [areKeys, Bool.and_eq_true] at ha hb
      rw [sameItems, forms, forms, Bool.and_eq_true, List.cons.injEq, same_iff_form ha.1 hb.1,
        sameItems_iff_forms ha.2 hb.2]
termination_by structural as

end

end Value

end DataParallel

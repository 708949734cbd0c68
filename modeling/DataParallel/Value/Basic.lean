import DataParallel.Number.Notation
import DataParallel.Text.Half

/-!
# Settings and other loose values

Configurations, hyperparameters, record headers and the items of an embedding come from outside
and may hold anything.  A `Value` is such a thing; each component that reads one says which values
it takes.  Numbers of different kinds are the same if they stand for the same number, a truth value
counts as the number one or zero, and not-a-number is the same as itself.
-/

namespace DataParallel

/-- A value from outside. -/
inductive Value where
  | null
  | bool (b : Bool)
  | int (n : Int)
  | float (x : Float)
  | text (s : String)
  /-- A text with halves of characters that stand alone, by its code points. -/
  | broken (codes : List Nat)
  | bytes (bs : List UInt8)
  | list (items : List Value)
  | tuple (items : List Value)
  | record (entries : List (Value × Value))
  /-- A host array, given by its nested rows. -/
  | array (rows : Value)
  /-- A typed blob of a message. -/
  | extension (code : Int) (data : List UInt8)
  | timestamp (seconds : Int) (nanoseconds : Nat)
  deriving Repr, Inhabited

/-- A number of one of the three kinds. -/
inductive Scalar where
  | bool (b : Bool)
  | int (n : Int)
  | float (x : Float)
  deriving DecidableEq, Repr

namespace Scalar

/-- The integer that a truth value or an integer stands for. -/
def whole? : Scalar → Option Int
  | bool b => some (if b then 1 else 0)
  | int n => some n
  | float _ => none

/-- Whether an integer and a float are the same number. -/
def sameAsFloat (n : Int) (x : Float) : Bool :=
  match Number.floatValue x with
  | .finite negative significand exponent =>
    significand * 2 ^ exponent.toNat == n.natAbs * 2 ^ (-exponent).toNat &&
      (significand == 0 || negative == decide (n < 0))
  | _ => false

/-- Whether an integer is at most a float. -/
def wholeAtMost (n : Int) (x : Float) : Bool :=
  match Number.floatValue x with
  | .nan => false
  | .infinite negative => !negative
  | .finite negative significand exponent =>
    let m : Int := (significand * 2 ^ exponent.toNat : Nat)
    n * 2 ^ (-exponent).toNat ≤ if negative then -m else m

/-- Equality of numbers across kinds. -/
def same : Scalar → Scalar → Bool
  | float x, float y => x == y || (x.isNaN && y.isNaN)
  | float x, b => (b.whole?.map (sameAsFloat · x)).getD false
  | a, float y => (a.whole?.map (sameAsFloat · y)).getD false
  | a, b => a.whole? == b.whole?

/-- Below zero. -/
def isNegative : Scalar → Bool
  | bool _ => false
  | int n => n < 0
  | float x => x < 0

/-- Equal to zero. -/
def isZero : Scalar → Bool
  | bool b => !b
  | int n => n == 0
  | float x => x == 0

end Scalar

namespace Value

/-- The number that a value is, if it is one. -/
def scalar? : Value → Option Scalar
  | bool b => some (.bool b)
  | int n => some (.int n)
  | float x => some (.float x)
  | _ => none

/-- The value that a number is. -/
def ofScalar : Scalar → Value
  | .bool b => bool b
  | .int n => int n
  | .float x => float x

/-- The text of code points. -/
def ofCodes (codes : List Nat) : Value :=
  if codes.any Text.isHalf then broken codes else text (String.ofList (codes.map Char.ofNat))

/-- The text that a value is, as it is shown. -/
def text? : Value → Option String
  | text s => some s
  | broken codes => some (Text.ofCodes codes)
  | _ => none

/-- Whether a value is a list or a tuple. -/
def isSequence : Value → Bool
  | list _ => true
  | tuple _ => true
  | _ => false

/-- Whether a value counts as true. -/
def truthy : Value → Bool
  | null => false
  | bool b => b
  | int n => n != 0
  | float x => x != 0
  | text s => s != ""
  | broken codes => !codes.isEmpty
  | bytes bs => !bs.isEmpty
  | list items => !items.isEmpty
  | tuple items => !items.isEmpty
  | record entries => !entries.isEmpty
  | array _ => true
  | extension _ _ => true
  | timestamp _ _ => true

mutual

/-- Equality of values: across the kinds of numbers, in order for sequences, and by key for
records. -/
def same : Value → Value → Bool
  | null, null => true
  | bool a, b => (b.scalar?.map (Scalar.same (.bool a))).getD false
  | int a, b => (b.scalar?.map (Scalar.same (.int a))).getD false
  | float a, b => (b.scalar?.map (Scalar.same (.float a))).getD false
  | text a, text b => a == b
  | broken a, broken b => a == b
  | bytes a, bytes b => a == b
  | list a, list b => sameItems a b
  | tuple a, tuple b => sameItems a b
  | record a, record b => a.length == b.length && sameEntries a b
  | array a, array b => same a b
  | extension c a, extension d b => c == d && a == b
  | timestamp s n, timestamp t m => s == t && n == m
  | _, _ => false
termination_by structural v => v

/-- Equality of sequences, item by item. -/
def sameItems : List Value → List Value → Bool
  | [], [] => true
  | a :: as, b :: bs => same a b && sameItems as bs
  | _, _ => false
termination_by structural as => as

/-- Every entry of the first list has an equal one in the second. -/
def sameEntries : List (Value × Value) → List (Value × Value) → Bool
  | [], _ => true
  | (k, v) :: rest, others =>
    others.any (fun other => same k other.1 && same v other.2) && sameEntries rest others
termination_by structural entries => entries

end

/-- A text is the same as itself alone. -/
theorem text_same_iff {s : String} {v : Value} : (text s).same v = true ↔ v = text s := by
  cases v with
  | text t =>
    rw [same, beq_iff_eq, text.injEq]
    exact eq_comm
  | _ => exact ⟨nofun, nofun⟩

mutual

/-- Whether a value can be a key: sequences that may change cannot. -/
def isKey : Value → Bool
  | list _ => false
  | record _ => false
  | array _ => false
  | tuple items => areKeys items
  | _ => true
termination_by structural v => v

/-- Whether all values can be keys. -/
def areKeys : List Value → Bool
  | [] => true
  | v :: vs => isKey v && areKeys vs
termination_by structural vs => vs

end

/-- The entry of a key. -/
def find? {α : Type} (key : Value) (entries : List (Value × α)) : Option α :=
  (entries.find? fun entry => key.same entry.1).map (·.2)

/-- Sets the entry of a key; a known key keeps its place and its form. -/
def insert {α : Type} (key : Value) (a : α) : List (Value × α) → List (Value × α)
  | [] => [(key, a)]
  | (k, b) :: rest => if key.same k then (k, a) :: rest else (k, b) :: insert key a rest

theorem insert_of_forall {α : Type} {k : Value} {es : List (Value × α)} (a : α)
    (h : ∀ e ∈ es, k.same e.1 = false) : insert k a es = es ++ [(k, a)] := by
  induction es with
  | nil => rfl
  | cons e es ih =>
    have hrest := ih fun e he => h e (List.mem_cons_of_mem _ he)
    simp [insert, h e List.mem_cons_self, hrest]

/-- The entry of a key in a record. -/
def field? (key : String) : Value → Option Value
  | record entries => find? (.text key) entries
  | _ => none

end Value

end DataParallel

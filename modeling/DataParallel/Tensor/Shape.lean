/-!
# Shapes

A shape lists the dimensions of an array; its size is the number of elements, which stand in
row-major order.  Two shapes are combined by aligning them at the last dimension and stretching
dimensions of length one.
-/

namespace DataParallel

/-- The dimensions of an array. -/
abbrev Shape := List Nat

namespace Shape

/-- The number of elements. -/
def size : Shape → Nat
  | [] => 1
  | d :: rest => d * size rest

/-- The most dimensions an array may have. -/
def maxRank : Nat := 64

/-- Combines two shapes given from the last dimension to the first. -/
def alignReversed : List Nat → List Nat → Option (List Nat)
  | [], ds => some ds
  | ds, [] => some ds
  | a :: as, b :: bs => do
    let rest ← alignReversed as bs
    if a = b then some (a :: rest)
    else if a = 1 then some (b :: rest)
    else if b = 1 then some (a :: rest)
    else none

/-- The shape to which both shapes can be stretched. -/
def broadcast? (a b : Shape) : Option Shape :=
  (alignReversed a.reverse b.reverse).map List.reverse

theorem alignReversed_self (ds : List Nat) : alignReversed ds ds = some ds := by
  induction ds with
  | nil => rfl
  | cons d ds ih => simp [alignReversed, ih]

@[simp] theorem broadcast?_self (s : Shape) : broadcast? s s = some s := by
  simp [broadcast?, alignReversed_self]

/-- The position of an element of a stretched array in its source.  Both shapes are given from
the last dimension to the first. -/
def sourceIndex : List Nat → List Nat → Nat → Nat
  | s :: ss, d :: ds, i => (if s = 1 then 0 else i % d) + s * sourceIndex ss ds (i / d)
  | _, _, _ => 0

/-- The position in a shape of the element at `i` with the dimensions in reverse; `before` is what
the dimensions before contribute. -/
def transposedIndex : Shape → Nat → Nat → Nat
  | [], _, before => before
  | d :: rest, i, before => transposedIndex rest (i / d) (before * d + i % d)

/-- The position in a shape of the element at `i` with the rows backwards. -/
def backwardsIndex (shape : Shape) (i : Nat) : Nat :=
  match shape with
  | [] => i
  | count :: rest => (count - 1 - i / size rest) * size rest + i % size rest

/-- Whether a shape can be stretched to another one.  Leading dimensions of length one that the
target lacks do not count. -/
def stretchesTo (source target : Shape) : Bool :=
  let extra := source.length - target.length
  (source.take extra).all (· == 1) && broadcast? (source.drop extra) target == some target

/-- The number of the largest array that can be asked for, in bytes. -/
def maxBytes : Nat := 2 ^ 63

/-- Whether an array of this shape can be addressed; empty dimensions do not count. -/
def addressable (itemSize : Nat) (s : Shape) : Bool :=
  s.length ≤ maxRank && itemSize * size (s.filter (· != 0)) < maxBytes

/-- Settles the dimensions asked for in a reshape of `count` elements: at most one negative
dimension, which takes what the others leave. -/
def resolve? (count : Nat) (dims : List Int) : Option Shape :=
  let known := dims.filter (0 ≤ ·)
  let product := size (known.map Int.toNat)
  match dims.length - known.length with
  | 0 => if product = count then some (dims.map Int.toNat) else none
  | 1 =>
    if product = 0 || count % product != 0 then none
    else some (dims.map fun d => if d < 0 then count / product else d.toNat)
  | _ => none

end Shape

end DataParallel

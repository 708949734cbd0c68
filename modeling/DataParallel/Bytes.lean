/-!
# Numbers as bytes

Little-endian numbers of a fixed count of bytes, and their reading.  Reading what was written
gives the number back if it fits the count.
-/

-- Powers of whole numbers are those of the core library, whatever else is imported.
attribute [instance (high), default_instance (high + 1)] instPowNat

namespace DataParallel.Bytes

/-- A number in `count` bytes, the least significant one first. -/
def littleEndian : Nat → Nat → List UInt8
  | 0, _ => []
  | count + 1, n => UInt8.ofNat n :: littleEndian count (n / 256)

/-- The number of a list of bytes, the least significant one first. -/
def toNat : List UInt8 → Nat
  | [] => 0
  | b :: bs => b.toNat + 256 * toNat bs

@[simp] theorem length_littleEndian (count n : Nat) :
    (littleEndian count n).length = count := by
  induction count generalizing n with
  | zero => rfl
  | succ count ih => simp [littleEndian, ih]

theorem toNat_littleEndian (count n : Nat) :
    toNat (littleEndian count n) = n % 256 ^ count := by
  induction count generalizing n with
  | zero => simp [littleEndian, toNat, Nat.mod_one]
  | succ count ih =>
    rw [littleEndian, toNat, ih, Nat.pow_succ, Nat.mul_comm (256 ^ count) 256,
      Nat.mod_mul, UInt8.toNat_ofNat']

theorem toNat_lt (bs : List UInt8) : toNat bs < 256 ^ bs.length := by
  induction bs with
  | nil => simp [toNat]
  | cons b bs ih =>
    have hb : b.toNat < 256 := b.toNat_lt
    rw [toNat, List.length_cons, Nat.pow_succ]
    omega

theorem littleEndian_toNat (bs : List UInt8) :
    littleEndian bs.length (toNat bs) = bs := by
  induction bs with
  | nil => rfl
  | cons b bs ih =>
    have hb : b.toNat < 256 := b.toNat_lt
    have hdiv : (b.toNat + 256 * toNat bs) / 256 = toNat bs := by omega
    have hhead : UInt8.ofNat (b.toNat + 256 * toNat bs) = b := by
      apply UInt8.toNat_inj.1
      rw [UInt8.toNat_ofNat']
      omega
    rw [List.length_cons, toNat, littleEndian, hdiv, ih, hhead]

theorem length_flatMap_of_forall {α β : Type} {f : α → List β} {n : Nat}
    (hf : ∀ a, (f a).length = n) (as : List α) : (as.flatMap f).length = as.length * n := by
  induction as with
  | nil => simp
  | cons a as ih => rw [List.flatMap_cons, List.length_append, hf, ih, List.length_cons,
      Nat.succ_mul, Nat.add_comm]

/-- Cuts the first `count` pieces of one size off a list. -/
def pieces (size : Nat) : Nat → List UInt8 → List (List UInt8)
  | 0, _ => []
  | count + 1, bs => bs.take size :: pieces size count (bs.drop size)

@[simp] theorem length_pieces (size count : Nat) (bs : List UInt8) :
    (pieces size count bs).length = count := by
  induction count generalizing bs with
  | zero => rfl
  | succ count ih => simp [pieces, ih]

theorem length_of_mem_pieces {size count : Nat} {bs piece : List UInt8}
    (h : bs.length = count * size) (hpiece : piece ∈ pieces size count bs) :
    piece.length = size := by
  induction count generalizing bs with
  | zero => cases hpiece
  | succ count ih =>
    rw [Nat.succ_mul] at h
    rcases List.mem_cons.1 hpiece with rfl | hpiece
    · rw [List.length_take]
      omega
    · exact ih (by rw [List.length_drop]; omega) hpiece

theorem flatten_pieces (size count : Nat) (bs : List UInt8) (h : bs.length = count * size) :
    (pieces size count bs).flatten = bs := by
  induction count generalizing bs with
  | zero =>
    have : bs = [] := List.eq_nil_of_length_eq_zero (by simpa using h)
    simp [pieces, this]
  | succ count ih =>
    rw [pieces, List.flatten_cons, ih, List.take_append_drop]
    rw [List.length_drop, h, Nat.add_mul, Nat.one_mul, Nat.add_sub_cancel]

end DataParallel.Bytes

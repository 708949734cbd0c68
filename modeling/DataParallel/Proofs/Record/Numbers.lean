import DataParallel.Proofs.Record.RoundTrip

/-!
# Records of arrays by value

An array by value is determined by its element type, its shape and its bytes, so its record is
read back to the array itself.  An array without dimensions is the exception: its record has one
dimension, and so has what is read from it.
-/

namespace DataParallel

/-- Pieces of one length are found again in what they are put together to. -/
theorem Bytes.eq_of_flatMap_eq {α : Type} {f : α → List UInt8} {n : Nat}
    (hlength : ∀ a, (f a).length = n) (hf : Function.Injective f) {xs ys : List α}
    (hsame : xs.length = ys.length) (h : xs.flatMap f = ys.flatMap f) : xs = ys := by
  induction xs generalizing ys with
  | nil => exact (List.eq_nil_of_length_eq_zero hsame.symm).symm
  | cons x xs ih =>
    cases ys with
    | nil => cases hsame
    | cons y ys =>
      rw [List.flatMap_cons, List.flatMap_cons] at h
      obtain ⟨hfirst, hrest⟩ := List.append_inj h ((hlength x).trans (hlength y).symm)
      rw [hf hfirst, ih (Nat.succ.inj hsame) hrest]

namespace Tensor

theorem eq_of_bytes {t u : Tensor} (hdtype : t.dtype = u.dtype) (hshape : t.shape = u.shape)
    (hbytes : t.bytes = u.bytes) : t = u := by
  rcases t with ⟨d, s, xs, hxs⟩
  rcases u with ⟨d', s', ys, hys⟩
  obtain rfl : d = d' := hdtype
  obtain rfl : s = s' := hshape
  have hcells : xs = ys := by
    apply Bytes.eq_of_flatMap_eq d.length_toBytes
    · exact Function.LeftInverse.injective d.ofBytes_toBytes
    · exact hxs.trans hys.symm
    · exact hbytes
  subst hcells
  rfl

/-- The array with at least one dimension. -/
def ranked (t : Tensor) : Tensor := if t.shape = [] then t.withShape [1] else t

theorem ranked_of_ne {t : Tensor} (h : t.shape ≠ []) : t.ranked = t := if_neg h

theorem dtype_ranked (t : Tensor) : t.ranked.dtype = t.dtype := by
  rw [ranked]
  split
  · exact dtype_withShape t [1]
  · rfl

theorem bytes_ranked (t : Tensor) : t.ranked.bytes = t.bytes := by
  rw [ranked]
  split
  · exact bytes_withShape t [1]
  · rfl

theorem shape_ranked (t : Tensor) : t.ranked.shape = if t.shape = [] then [1] else t.shape := by
  by_cases h : t.shape = []
  · rw [ranked, if_pos h, if_pos h, shape_withShape]
    rw [size, h]
    rfl
  · rw [ranked_of_ne h, if_neg h]

theorem shape_ranked_ne (t : Tensor) : t.ranked.shape ≠ [] := by
  rw [shape_ranked]
  split
  · simp
  · assumption

end Tensor

namespace Record

namespace Body

theorem ofTensor_injective {t u : Tensor} (h : ofTensor t = ofTensor u) : t = u := by
  apply Tensor.eq_of_bytes
  · exact ItemType.number.inj (congrArg Body.item h)
  · exact congrArg Body.shape h
  · exact congrArg Body.bytes h

theorem written_ofTensor (t : Tensor) : (ofTensor t).written = ofTensor t.ranked := by
  have hranked : ofTensor t.ranked =
      ⟨.number t.dtype, if t.shape = [] then [1] else t.shape, t.bytes⟩ := by
    rw [ofTensor, t.dtype_ranked, t.shape_ranked, t.bytes_ranked]
  rw [hranked]
  by_cases hshape : t.shape = []
  · simp [written, ofTensor, hshape]
  · simp [written, ofTensor, hshape]

end Body

theorem write_ranked (name : Value) (t : Tensor) : write name t.ranked = write name t := by
  have htwice : (Body.ofTensor t.ranked).written = Body.ofTensor t.ranked :=
    if_neg t.shape_ranked_ne
  rw [write, write, writeBody, writeBody, htwice, Body.written_ofTensor]

/-- What is asked of an array by value and of the name of its record: an element type with the
order of its bytes, an array that can exist, and a name and a header whose lengths fit in front of
them. -/
structure Recordable (name : String) (t : Tensor) : Prop where
  ordered : t.dtype.bigEndian = true → t.dtype.itemSize ≠ 1
  addressable : t.shape.addressable t.dtype.itemSize = true
  named : name.utf8ByteSize < 2 ^ 32
  header : ∀ head, MessagePack.write ((Body.ofTensor t.ranked).header (.text name)) = .ok head →
    head.length < 2 ^ 32

namespace Recordable

variable {name : String} {t : Tensor}

theorem sound (h : Recordable name t) : (Body.ofTensor t.ranked).Sound := by
  constructor
  · show (ItemType.number t.ranked.dtype).Numeric
    rw [t.dtype_ranked]
    exact .number t.dtype h.ordered
  · exact t.shape_ranked_ne
  · show t.ranked.shape.addressable t.ranked.dtype.itemSize = true
    rw [t.dtype_ranked, t.shape_ranked]
    split
    · -- A single item takes no more room in one dimension than in none.
      next hshape =>
      have haddressable := h.addressable
      rw [hshape] at haddressable
      simpa [Shape.addressable, Shape.maxRank, Shape.size] using haddressable
    · exact h.addressable
  · exact t.ranked.length_bytes

/-- A record of numbers is read back to the array that was written. -/
theorem exists_record (h : Recordable name t) :
    ∃ record, write (.text name) t = .ok record ∧
      ∀ rest, readContents.runFrom (record ++ rest) =
        (.ok (.text name, .tensor t.ranked), rest) := by
  have hnamed : ∀ s, some name = some s → s.utf8ByteSize < 2 ^ 32 := by
    rintro s ⟨⟩
    exact h.named
  obtain ⟨head, hhead⟩ := h.sound.packs_header hnamed
  have hlength := h.header head hhead.written
  obtain ⟨c, hc, hread⟩ := exists_read h.sound hhead hlength
  have hcontents : c = .tensor t.ranked := by
    rcases c with u | carried
    · rw [Body.ofTensor_injective hc]
    · have hitem : ItemType.stored carried.code carried.itemSize true = .number t.ranked.dtype :=
        congrArg Body.item hc
      cases hitem
  rw [hcontents] at hread
  refine ⟨framed head (Body.ofTensor t.ranked).bytes, ?_, hread⟩
  rw [← write_ranked]
  exact writeBody_eq h.sound hhead.written hlength

end Recordable

end Record

end DataParallel

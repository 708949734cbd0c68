import DataParallel.Proofs.Record.Numbers

/-!
# Headers are short

The length of a header has to fit into the four bytes in front of it.  In front of a number, a
text or a list stand no more than nine bytes, and an array has few dimensions, so apart from the
name no header is long.  An array that exists can be recorded under every short name.
-/

namespace DataParallel

namespace MessagePack

/-! ## Lengths of messages -/

theorem length_shortest_le {base room n : Nat} {forms : List (UInt8 × Nat)} {beyond : Fault}
    {bs : List UInt8} (hforms : ∀ form ∈ forms, form.2 ≤ 8)
    (h : shortest base room forms beyond n = .ok bs) : bs.length ≤ 9 := by
  rw [shortest] at h
  split at h
  · rw [← Except.ok.inj h, List.length_singleton]
    decide
  · rcases hfind : forms.find? fun form => n < 256 ^ form.2 with _ | ⟨tag, count⟩
    · rw [hfind] at h
      cases h
    · rw [hfind] at h
      have hcount : count ≤ 8 := hforms _ (List.mem_of_find?_eq_some hfind)
      rw [← Except.ok.inj h, tagged, List.length_cons, length_bigEndian]
      omega

theorem length_write_nat_le {n : Nat} {bs : List UInt8} (h : write (.int n) = .ok bs) :
    bs.length ≤ 9 := by
  rw [write, writeInt, if_pos (Int.natCast_nonneg n)] at h
  exact length_shortest_le (by simp) h

theorem length_write_text_le {s : String} {bs : List UInt8} (h : write (.text s) = .ok bs) :
    bs.length ≤ 9 + s.utf8ByteSize := by
  rw [write, writeText] at h
  obtain ⟨first, hfirst, h⟩ := exists_of_bind_eq_ok h
  have hlength : first.length ≤ 9 := length_shortest_le (by simp) hfirst
  have hbytes : s.toUTF8.data.toList.length = s.utf8ByteSize := rfl
  rw [← Except.ok.inj h, List.length_append, hbytes]
  exact Nat.add_le_add_right hlength _

theorem length_writeItems_le {vs : List Value} {bs : List UInt8} {k : Nat}
    (hvs : ∀ v ∈ vs, ∀ bs, write v = .ok bs → bs.length ≤ k) (h : writeItems vs = .ok bs) :
    bs.length ≤ vs.length * k := by
  induction vs generalizing bs with
  | nil =>
    rw [writeItems] at h
    rw [← Except.ok.inj h]
    exact Nat.zero_le _
  | cons v vs ih =>
    rw [writeItems] at h
    obtain ⟨first, hfirst, h⟩ := exists_of_bind_eq_ok h
    obtain ⟨others, hothers, h⟩ := exists_of_bind_eq_ok h
    have hone := hvs v List.mem_cons_self first hfirst
    have hmany := ih (fun w hw => hvs w (List.mem_cons_of_mem _ hw)) hothers
    rw [← Except.ok.inj h, List.length_append, List.length_cons, Nat.succ_mul, Nat.add_comm]
    exact Nat.add_le_add hmany hone

theorem length_write_list_le {vs : List Value} {bs : List UInt8} {k : Nat}
    (hvs : ∀ v ∈ vs, ∀ bs, write v = .ok bs → bs.length ≤ k) (h : write (.list vs) = .ok bs) :
    bs.length ≤ 9 + vs.length * k := by
  rw [write] at h
  obtain ⟨first, hfirst, h⟩ := exists_of_bind_eq_ok h
  obtain ⟨items, hitems, h⟩ := exists_of_bind_eq_ok h
  have hlength : first.length ≤ 9 := length_shortest_le (by simp) hfirst
  rw [← Except.ok.inj h, List.length_append]
  exact Nat.add_le_add hlength (length_writeItems_le hvs hitems)

/-- An entry and all behind it. -/
theorem exists_of_writeEntries_cons {k v : Value} {es : List (Value × Value)} {bs : List UInt8}
    (h : writeEntries ((k, v) :: es) = .ok bs) :
    ∃ key value others, write k = .ok key ∧ write v = .ok value ∧ writeEntries es = .ok others ∧
      bs.length = key.length + value.length + others.length := by
  rw [writeEntries] at h
  obtain ⟨key, hkey, h⟩ := exists_of_bind_eq_ok h
  obtain ⟨value, hvalue, h⟩ := exists_of_bind_eq_ok h
  obtain ⟨others, hothers, h⟩ := exists_of_bind_eq_ok h
  refine ⟨key, value, others, hkey, hvalue, hothers, ?_⟩
  rw [← Except.ok.inj h, List.length_append, List.length_append]

end MessagePack

namespace Record

open MessagePack (exists_of_writeEntries_cons length_shortest_le length_write_nat_le
  length_write_text_le length_write_list_le)

/-! ## Lengths of headers -/

theorem length_write_shape_le {s : Shape} {bs : List UInt8}
    (h : MessagePack.write (.list s.values) = .ok bs) : bs.length ≤ 9 + s.length * 9 := by
  have hlength := length_write_list_le (k := 9) (fun v hv bs hbs => ?_) h
  · rwa [Shape.values, List.length_map] at hlength
  · obtain ⟨d, -, rfl⟩ := List.mem_map.mp hv
    exact length_write_nat_le hbs

/-- A header is its three entries with their keys. -/
theorem length_header_le {name : String} {b : Body} {head : List UInt8}
    (h : MessagePack.write (b.header (.text name)) = .ok head) :
    head.length ≤ 77 + name.utf8ByteSize + b.item.code.utf8ByteSize + b.shape.length * 9 := by
  rw [Body.header, MessagePack.write] at h
  obtain ⟨first, hfirst, h⟩ := exists_of_bind_eq_ok h
  obtain ⟨entries, hentries, h⟩ := exists_of_bind_eq_ok h
  obtain ⟨nameKey, nameBytes, others, hnameKey, hname, hothers, hlength⟩ :=
    exists_of_writeEntries_cons hentries
  obtain ⟨codeKey, codeBytes, last, hcodeKey, hcode, hlast, hothersLength⟩ :=
    exists_of_writeEntries_cons hothers
  obtain ⟨shapeKey, shapeBytes, nothing, hshapeKey, hshape, hnothing, hlastLength⟩ :=
    exists_of_writeEntries_cons hlast
  rw [MessagePack.writeEntries] at hnothing
  obtain rfl := Except.ok.inj hnothing
  have hfirst : first.length ≤ 9 := length_shortest_le (by simp) hfirst
  have hnameKey : nameKey.length ≤ 9 + 4 := length_write_text_le hnameKey
  have hcodeKey : codeKey.length ≤ 9 + 5 := length_write_text_le hcodeKey
  have hshapeKey : shapeKey.length ≤ 9 + 5 := length_write_text_le hshapeKey
  have hname := length_write_text_le hname
  have hcode := length_write_text_le hcode
  have hshape := length_write_shape_le hshape
  rw [List.length_nil] at hlastLength
  rw [← Except.ok.inj h, List.length_append]
  omega

/-- An array of numbers that exists can be recorded under every short name. -/
theorem Recordable.of_short {name : String} {t : Tensor}
    (hordered : t.dtype.bigEndian = true → t.dtype.itemSize ≠ 1)
    (haddressable : t.shape.addressable t.dtype.itemSize = true)
    (hname : name.utf8ByteSize ≤ 2 ^ 16) : Recordable name t where
  ordered := hordered
  addressable := haddressable
  named := Nat.lt_of_le_of_lt hname (by decide)
  header head hhead := by
    have hlength := length_header_le hhead
    have hcode := (ItemType.Numeric.number t.ranked.dtype (t.dtype_ranked ▸ hordered)).code_le
    have hrank : t.ranked.shape.length ≤ 64 := by
      rw [t.shape_ranked]
      split
      · decide
      · exact (Shape.addressable_iff.mp haddressable).1
    simp only [Body.ofTensor] at hlength
    omega

end Record

end DataParallel

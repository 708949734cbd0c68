import DataParallel.Proofs.Record.Frame
import DataParallel.Proofs.Tensor.Slice
import Mathlib.Tactic.Ring

/-!
# Which records are accepted

Whatever stream the reader accepts, it begins with a frame whose payload is what the dimensions of
the array ask for.  As long as no dimension of the header is below minus one, these dimensions are
those of the header, none is negative, and their product is exact.  A dimension below minus one is
taken for one that is left open, and the length of the payload is compared with a product that may
wrap around, so a header with such a dimension can be accepted, and then it always wraps around.
-/

namespace DataParallel

/-- Whether the items are no arrays themselves, as truth values, integers and floats are none. -/
def ItemType.isSingle : ItemType → Bool
  | block _ _ => false
  | _ => true

/-! ## Dimensions of a header and of an array -/

namespace Shape

theorem dimension_eq_ok {v : Value} {n : Int} (h : dimension v = .ok n) :
    v = .int n ∧ -(2 ^ 63 : Int) ≤ n ∧ n < 2 ^ 63 := by
  cases v with
  | int m =>
    rw [dimension] at h
    split at h
    next hrange =>
      obtain rfl := Except.ok.inj h
      exact ⟨rfl, hrange⟩
    · cases h
  | _ => cases h

theorem mapM_dimension_eq_ok {vs : List Value} {ns : List Int} (h : vs.mapM dimension = .ok ns) :
    vs = ns.map Value.int ∧ ∀ n ∈ ns, -(2 ^ 63 : Int) ≤ n ∧ n < 2 ^ 63 := by
  induction vs generalizing ns with
  | nil =>
    obtain rfl := Except.ok.inj h
    exact ⟨rfl, nofun⟩
  | cons v vs ih =>
    rw [List.mapM_cons] at h
    obtain ⟨n, hn, h⟩ := exists_of_bind_eq_ok h
    obtain ⟨rest, hrest, h⟩ := exists_of_bind_eq_ok h
    obtain rfl := Except.ok.inj h
    obtain ⟨hv, hrange⟩ := dimension_eq_ok hn
    obtain ⟨hvs, hranges⟩ := ih hrest
    exact ⟨by rw [hv, hvs, List.map_cons], List.forall_mem_cons.mpr ⟨hrange, hranges⟩⟩

theorem dimensions_eq_ok {vs : List Value} {ns : List Int} (h : dimensions vs = .ok ns) :
    vs = ns.map Value.int ∧ ∀ n ∈ ns, -(2 ^ 63 : Int) ≤ n ∧ n < 2 ^ 63 := by
  rw [dimensions] at h
  split at h
  · cases h
  · exact mapM_dimension_eq_ok h

theorem eq_wholes_of_nonneg {ns : List Int} (h : ∀ n ∈ ns, 0 ≤ n) :
    ns = wholes (ns.map Int.toNat) := by
  have hback : ns.map (fun n => (n.toNat : Int)) = ns.map id :=
    List.map_congr_left fun n hn => Int.toNat_of_nonneg (h n hn)
  rw [List.map_id] at hback
  rw [wholes, List.map_map]
  exact hback.symm

theorem nonneg_of_filter {ns : List Int} (h : ns.length - (ns.filter (0 ≤ ·)).length = 0) :
    ∀ n ∈ ns, 0 ≤ n := by
  have hle := List.length_filter_le (0 ≤ ·) ns
  have hfull : (ns.filter (0 ≤ ·)).length = ns.length := by omega
  simpa using List.length_filter_eq_length_iff.mp hfull

/-- Dimensions of which a single one is negative. -/
theorem exists_negative {ns : List Int} (h : ns.length - (ns.filter (0 ≤ ·)).length = 1) :
    ∃ (before after : Shape) (n : Nat), 0 < n ∧
      ns = before.wholes ++ -(n : Int) :: after.wholes := by
  induction ns with
  | nil => cases h
  | cons d rest ih =>
    by_cases hd : 0 ≤ d
    · rw [List.filter_cons_of_pos (by simpa using hd), List.length_cons, List.length_cons,
        Nat.add_sub_add_right] at h
      obtain ⟨before, after, n, hn, rfl⟩ := ih h
      refine ⟨d.toNat :: before, after, n, hn, ?_⟩
      have hfirst : wholes (d.toNat :: before) = (d.toNat : Int) :: before.wholes := rfl
      rw [hfirst, Int.toNat_of_nonneg hd]
      rfl
    · rw [List.filter_cons_of_neg (by simpa using hd), List.length_cons] at h
      have hall : ∀ n ∈ rest, 0 ≤ n := nonneg_of_filter (by omega)
      refine ⟨[], rest.map Int.toNat, (-d).toNat, by omega, ?_⟩
      rw [← eq_wholes_of_nonneg hall, Int.toNat_of_nonneg (by omega), Int.neg_neg]
      rfl

/-- The whole numbers that settle the dimensions of an array: they are the dimensions themselves, or
a single one is negative and stands for what the others leave. -/
theorem resolve?_eq_some {count : Nat} {ns : List Int} {s : Shape}
    (h : resolve? count ns = some s) :
    (ns = s.wholes ∧ s.size = count) ∨
    ∃ (before after : Shape) (n q : Nat), 0 < n ∧ 0 < (before ++ after).size ∧
      count = q * (before ++ after).size ∧
      ns = before.wholes ++ -(n : Int) :: after.wholes ∧ s = before ++ q :: after := by
  rw [resolve?] at h
  split at h
  next hnone =>
    -- No dimension is negative.
    split at h
    next hsize =>
      have hall := nonneg_of_filter hnone
      have hknown : ns.filter (0 ≤ ·) = ns := List.filter_eq_self.mpr (by simpa using hall)
      rw [hknown] at hsize
      obtain rfl := Option.some.inj h
      exact Or.inl ⟨eq_wholes_of_nonneg hall, hsize⟩
    · cases h
  next hone =>
    obtain ⟨before, after, n, hn, rfl⟩ := exists_negative hone
    have hknown : size (((before.wholes ++ -(n : Int) :: after.wholes).filter (0 ≤ ·)).map
        Int.toNat) = (before ++ after).size := by
      rw [List.filter_append, List.filter_cons_of_neg (by simp; omega), filter_wholes,
        filter_wholes, List.map_append, toNat_wholes, toNat_wholes]
    rw [hknown] at h
    split at h
    · cases h
    next hdivides =>
      simp only [Bool.or_eq_true, decide_eq_true_eq, bne_iff_ne, ne_eq, not_or, not_not]
        at hdivides
      obtain ⟨hpos, hmod⟩ := hdivides
      refine Or.inr ⟨before, after, n, count / (before ++ after).size, hn,
        Nat.pos_of_ne_zero hpos, (Nat.div_mul_cancel (Nat.dvd_of_mod_eq_zero hmod)).symm, rfl, ?_⟩
      have hkept (d : Nat) :
          (if (d : Int) < 0 then count / (before ++ after).size else (d : Int).toNat) = d := by
        simp
      rw [← Option.some.inj h, List.map_append, List.map_cons, map_wholes hkept,
        map_wholes hkept, if_pos (by omega)]
  · cases h

/-- Whatever settles a shape, it has the number of items that was asked for. -/
theorem size_of_resolve? {count : Nat} {ns : List Int} {s : Shape}
    (h : resolve? count ns = some s) : s.size = count := by
  rcases resolve?_eq_some h with ⟨-, hsize⟩ | ⟨before, after, n, q, -, -, hcount, -, rfl⟩
  · exact hsize
  · rw [hcount, size_append, size_append, size]
    ring

end Shape

namespace Record

/-- How the dimensions of an array come from the whole numbers of a header: they are the same, or
one of the numbers is below minus one, the array has another dimension in its place, and the product
of the numbers misses that of the dimensions by a multiple of `2 ^ 64`. -/
inductive Settled : List Int → Shape → Prop
  | exact (s : Shape) : Settled s.wholes s
  | wrapped (before after : Shape) (n count turns : Nat) (below : 1 < n) (turned : 0 < turns)
      (product : (before.wholes ++ -(n : Int) :: after.wholes).prod =
        (before ++ count :: after).size - turns * 2 ^ 64) :
      Settled (before.wholes ++ -(n : Int) :: after.wholes) (before ++ count :: after)

theorem Settled.eq_wholes {ns : List Int} {s : Shape} (h : Settled ns s) (hns : ∀ n ∈ ns, -1 ≤ n) :
    ns = s.wholes := by
  cases h with
  | exact => rfl
  | wrapped before after n _ _ below =>
    have hn := hns _ (List.mem_append_right _ List.mem_cons_self)
    omega

/-- The dimensions around one of an array that exists are small. -/
theorem size_lt_of_addressable {itemSize count : Nat} {before after : Shape} (hpos : 0 < itemSize)
    (h : (before ++ count :: after).addressable itemSize = true) :
    (before ++ after).size < 2 ^ 63 := by
  have hfits := Shape.Fits.of_addressable hpos h
  have hle : Shape.size ((before ++ after).filter (· != 0)) ≤
      Shape.size ((before ++ count :: after).filter (· != 0)) := by
    rw [List.filter_append, List.filter_append, Shape.size_append, Shape.size_append]
    refine Nat.mul_le_mul_left _ ?_
    by_cases hcount : count = 0
    · simp [hcount]
    · rw [List.filter_cons_of_pos (by simpa using hcount), Shape.size]
      exact Nat.le_mul_of_pos_left _ (Nat.pos_of_ne_zero hcount)
  exact Nat.lt_of_le_of_lt (Nat.le_trans (Shape.size_le_size_filter _) hle) hfits.product

/-- Numbers that settle a shape whose size is their product, wrapped around. -/
theorem settled_of_resolve? {itemSize count : Nat} {ns : List Int} {s : Shape}
    (hpos : 0 < itemSize) (hresolve : Shape.resolve? count ns = some s)
    (haddressable : s.addressable itemSize = true) (hcount : wrap ns.prod = count) :
    Settled ns s := by
  have hsize := Shape.size_of_resolve? hresolve
  rcases Shape.resolve?_eq_some hresolve with
    ⟨rfl, -⟩ | ⟨before, after, n, q, hn, hothers, -, rfl, rfl⟩
  · exact .exact s
  have hprod : (before.wholes ++ -(n : Int) :: after.wholes).prod =
      -((n : Int) * (before ++ after).size) := by
    rw [List.prod_append, List.prod_cons, Shape.prod_wholes, Shape.prod_wholes, Shape.size_append,
      Int.natCast_mul]
    ring
  -- The product of the header and its remainder differ by whole turns.
  obtain ⟨k, hk⟩ : ∃ k : Int, (before.wholes ++ -(n : Int) :: after.wholes).prod =
      count + 2 ^ 64 * k := by
    refine ⟨Int.bdiv (before.wholes ++ -(n : Int) :: after.wholes).prod (2 ^ 64), ?_⟩
    rw [← hcount]
    exact (Int.bmod_add_bdiv _ _).symm
  have hlt : (count : Int) < 2 ^ 63 := by
    rw [← hcount]
    exact Int.bmod_lt (by decide)
  have hnegative : 0 < (n : Int) * (before ++ after).size := by
    exact_mod_cast Nat.mul_pos hn hothers
  have hbelow : 1 < n := by
    -- A dimension of minus one would leave a product that is too small to turn.
    by_contra hone
    obtain rfl : n = 1 := by omega
    have hsmall := size_lt_of_addressable hpos haddressable
    omega
  refine .wrapped before after n q (-k).toNat hbelow (by omega) ?_
  rw [hsize, hk, Int.toNat_of_nonneg (by omega)]
  ring

/-! ## The contents of a frame -/

theorem reshaped_eq_ok {itemSize count : Nat} {ns : List Int} {s : Shape}
    (h : Tensor.reshaped itemSize count ns = .ok s) :
    Shape.resolve? count ns = some s ∧ s.addressable itemSize = true := by
  rw [Tensor.reshaped] at h
  split at h
  next hresolve =>
    split at h
    next haddressable =>
      obtain rfl := Except.ok.inj h
      exact ⟨hresolve, haddressable⟩
    · cases h
  · cases h

/-- What the contents are made of: numbers that settle a shape for the items of the payload. -/
theorem assemble_eq_ok {item : ItemType} {dims : List Value} {payload : List UInt8} {c : Contents}
    (hsingle : item.isSingle = true) (h : assemble item dims payload = .ok c) :
    0 < item.size ∧ ∃ ns s, Shape.dimensions dims = .ok ns ∧
      Shape.resolve? (payload.length / item.size) ns = some s ∧
      s.addressable item.size = true ∧ c.body = ⟨item, s, payload⟩ := by
  rw [assemble] at h
  split at h
  · cases h
  next hguard =>
  simp only [Bool.or_eq_true, decide_eq_true_eq, Bool.not_eq_true', not_or,
    Bool.not_eq_false] at hguard
  obtain ⟨hpos, hreadable⟩ := hguard
  refine ⟨Nat.pos_of_ne_zero hpos, ?_⟩
  cases item with
  | number d =>
    simp only [ItemType.innermost, Nat.mul_one] at h
    split at h
    · cases h
    next flat hflat =>
    obtain ⟨ns, hns, h⟩ := exists_of_bind_eq_ok h
    obtain ⟨t, ht, h⟩ := exists_of_bind_eq_ok h
    obtain ⟨s, hs, ht⟩ := exists_of_bind_eq_ok ht
    obtain ⟨hdtype, hshape, hbytes⟩ := Tensor.bytes_of_ofBytes? hflat
    have hsize : flat.size = payload.length / d.itemSize := by
      rw [Tensor.size, hshape, Shape.size, Shape.size, Nat.mul_one]
      rfl
    rw [hsize, hdtype] at hs
    obtain ⟨hresolve, haddressable⟩ := reshaped_eq_ok hs
    refine ⟨ns, s, hns, hresolve, haddressable, ?_⟩
    have hsame : flat.size = s.size := hsize.trans (Shape.size_of_resolve? hresolve).symm
    obtain rfl := Except.ok.inj h
    obtain rfl := Except.ok.inj ht
    show Body.ofTensor (flat.withShape s) = _
    rw [Body.ofTensor, Tensor.dtype_withShape, Tensor.shape_withShape hsame,
      Tensor.bytes_withShape, hdtype, hbytes]
  | stored code size readable =>
    obtain rfl : readable = true := hreadable
    simp only [ItemType.innermost, Nat.mul_one] at h
    obtain ⟨ns, hns, h⟩ := exists_of_bind_eq_ok h
    obtain ⟨s, hs, h⟩ := exists_of_bind_eq_ok h
    obtain ⟨hresolve, haddressable⟩ := reshaped_eq_ok hs
    split at h
    · obtain rfl := Except.ok.inj h
      exact ⟨ns, s, hns, hresolve, haddressable, rfl⟩
    · cases h
  | block item shape => cases hsingle

/-- The contents of a frame: the items of the header with the bytes of the payload, in a shape that
takes exactly these bytes and comes from whole numbers in the header. -/
structure Frame.Describes (f : Frame) (ns : List Int) (c : Contents) : Prop where
  dims : f.dims = ns.map Value.int
  item : c.body.item = f.item
  bytes : c.body.bytes = f.payload
  settled : Settled ns c.body.shape
  full : c.body.shape.size * f.item.size = f.payload.length
  small : f.payload.length < 2 ^ 63

theorem Stores.exists_describes {f : Frame} {c : Contents} (hsingle : f.item.isSingle = true)
    (h : Stores f.item f.dims f.payload c) : ∃ ns, f.Describes ns c := by
  obtain ⟨hpos, ns, s, hns, hresolve, haddressable, hbody⟩ := assemble_eq_ok hsingle h.contents
  obtain ⟨hdims, hrange⟩ := Shape.dimensions_eq_ok hns
  obtain ⟨count, hcount, hlength⟩ := h.implied
  rw [hdims, impliedCount_ints hrange] at hcount
  obtain rfl := Except.ok.inj hcount
  have hcount : wrap ns.prod = (f.payload.length / f.item.size : Nat) := by
    rw [Int.natCast_ediv, hlength, Int.mul_ediv_cancel _ (by omega)]
  have hwhole : f.payload.length / f.item.size * f.item.size = f.payload.length := by
    rw [hcount] at hlength
    exact_mod_cast hlength.symm
  refine ⟨ns, hdims, ?_, ?_, ?_, ?_, h.small⟩
  · rw [hbody]
  · rw [hbody]
  · rw [hbody]
    exact settled_of_resolve? hpos hresolve haddressable hcount
  · rw [hbody, Shape.size_of_resolve? hresolve, hwhole]

/-- Without a dimension below minus one, the header has the dimensions of the array, and nothing
wraps around. -/
theorem Frame.Describes.exact {f : Frame} {ns : List Int} {c : Contents} (h : f.Describes ns c)
    (hns : ∀ n ∈ ns, -1 ≤ n) :
    ns = c.body.shape.wholes ∧ (∀ n ∈ ns, 0 ≤ n) ∧
      ns.prod * f.item.size = f.payload.length := by
  have hsame := h.settled.eq_wholes hns
  refine ⟨hsame, ?_, ?_⟩
  · rw [hsame]
    simp [Shape.wholes]
  · rw [hsame, Shape.prod_wholes]
    exact_mod_cast h.full

/-! ## A dimension that turns -/

/-- The header of two four-byte floats under the name `w`, with the dimensions `1 - 2 ^ 63` and
`2`. -/
def turningHead : List UInt8 :=
  [0x83, 0xA4, 0x6E, 0x61, 0x6D, 0x65, 0xA1, 0x77,
    0xA5, 0x64, 0x74, 0x79, 0x70, 0x65, 0xA3, 0x3C, 0x66, 0x34,
    0xA5, 0x73, 0x68, 0x61, 0x70, 0x65, 0x92, 0xD3, 0x80, 0, 0, 0, 0, 0, 0, 1, 0x02]

/-- The frame of this header with eight bytes; the product of its dimensions turns into two. -/
def turning : Frame where
  head := turningHead
  header := .record [(.text "name", .text "w"), (.text "dtype", .text "<f4"),
    (.text "shape", .list [.int (1 - 2 ^ 63), .int 2])]
  item := .number ⟨.float .single, false⟩
  dims := [.int (1 - 2 ^ 63), .int 2]
  payload := List.replicate 8 0

set_option maxRecDepth 4000 in
theorem read_turningHead : MessagePack.read turningHead = .ok turning.header := by
  rfl

theorem begins_turning : turning.Begins (framed turningHead turning.payload) [] where
  stream := (List.append_nil _).symm
  short := by decide
  header := read_turningHead
  heading := by rfl

theorem stores_turning : Stores turning.item turning.dims turning.payload
    (.tensor ⟨⟨.float .single, false⟩, [1, 2], [0, 0], rfl⟩) where
  small := by decide
  implied := ⟨2, by rfl, by rfl⟩
  contents := by rfl

/-! ## What is accepted -/

/-- What the reader takes is a frame, and what it gives is what the frame describes. -/
theorem accepted_as_described {bs rest : Stream} {name : Value} {c : Contents}
    (h : readContents.runFrom bs = (.ok (name, c), rest)) :
    ∃ f : Frame, f.Begins bs rest ∧ name = f.name ∧
      (f.item.isSingle = true → ∃ ns, f.Describes ns c ∧
        ((∀ n ∈ ns, -1 ≤ n) → ns = c.body.shape.wholes ∧ (∀ n ∈ ns, 0 ≤ n) ∧
          ns.prod * f.item.size = f.payload.length)) := by
  obtain ⟨f, hf, hname, hstores⟩ := readContents_eq_ok.mp h
  refine ⟨f, hf, hname, fun hsingle => ?_⟩
  obtain ⟨ns, hdescribes⟩ := hstores.exists_describes hsingle
  exact ⟨ns, hdescribes, hdescribes.exact⟩

theorem accepted_as_described_turning :
    ∃ c, readContents.runFrom (framed turningHead turning.payload) = (.ok (.text "w", c), []) ∧
      ∃ f : Frame, f.Begins (framed turningHead turning.payload) [] ∧ Value.text "w" = f.name ∧
        (f.item.isSingle = true → ∃ ns, f.Describes ns c ∧
          ((∀ n ∈ ns, -1 ≤ n) → ns = c.body.shape.wholes ∧ (∀ n ∈ ns, 0 ≤ n) ∧
            ns.prod * f.item.size = f.payload.length)) := by
  have hread := readContents_eq_ok.mpr ⟨turning, begins_turning, rfl, stores_turning⟩
  exact ⟨_, hread, accepted_as_described hread⟩

/-- A header with a dimension far below zero, whose product is not the length of the payload, is
accepted. -/
theorem negative_dimension_accepted :
    ∃ c, readContents.runFrom (framed turningHead (List.replicate 8 0)) =
        (.ok (.text "w", c), []) ∧
      c.body = ⟨.number ⟨.float .single, false⟩, [1, 2], List.replicate 8 0⟩ ∧
      MessagePack.read turningHead = .ok (.record [(.text "name", .text "w"),
        (.text "dtype", .text "<f4"), (.text "shape", .list [.int (1 - 2 ^ 63), .int 2])]) ∧
      (1 - 2 ^ 63 : Int) * 2 * 4 ≠ 8 :=
  ⟨_, readContents_eq_ok.mpr ⟨turning, begins_turning, rfl, stores_turning⟩, by rfl,
    read_turningHead, by decide⟩

end Record

end DataParallel

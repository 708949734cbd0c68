import DataParallel.Proofs.Record.RoundTrip

/-!
# Records that are cut off

A record that ends before its last byte is refused because the stream ended, wherever the cut
falls.  Every length that the reader acts on stands in front of what it measures, so up to the cut
the reader goes the way that the whole record would take it, and no cut makes a shorter record or
another fault.
-/

namespace DataParallel

/-- Whether a fault says that a stream ended too early. -/
def Fault.isStreamEnd : Fault → Bool
  | .parameterStreamEnd | .embeddingStreamEnd | .cutShort .. => true
  | _ => false

/-- Some first bytes of a stream, but not all of them. -/
structure CutFrom (bs cut : Stream) : Prop where
  front : cut <+: bs
  short : cut ≠ bs

theorem not_cutFrom_nil (cut : Stream) : ¬CutFrom [] cut :=
  fun h => h.short (List.prefix_nil.1 h.front)

theorem CutFrom.lt {bs cut : Stream} (h : CutFrom bs cut) : cut.length < bs.length :=
  Nat.lt_of_le_of_ne h.front.length_le fun heq => h.short (h.front.eq_of_length heq)

/-- A cut through two pieces falls into the first one or behind it. -/
theorem CutFrom.append {bs others cut : Stream} (h : CutFrom (bs ++ others) cut) :
    CutFrom bs cut ∨ ∃ behind, cut = bs ++ behind ∧ CutFrom others behind := by
  rcases List.prefix_or_prefix_of_prefix h.front (List.prefix_append bs others) with hin | hout
  · by_cases hall : cut = bs
    · -- Between the two pieces: the second one is cut off whole.
      refine Or.inr ⟨[], by rw [hall, List.append_nil], List.nil_prefix, fun hnone => h.short ?_⟩
      rw [hall, ← hnone, List.append_nil]
    · exact Or.inl ⟨hin, hall⟩
  · obtain ⟨behind, rfl⟩ := hout
    refine Or.inr ⟨behind, rfl, (List.prefix_append_right_inj bs).1 h.front, fun heq => h.short ?_⟩
    rw [heq]

theorem CutFrom.cons {b : UInt8} {bs cut : Stream} (h : CutFrom (b :: bs) cut) :
    cut = [] ∨ ∃ behind, cut = b :: behind ∧ CutFrom bs behind := by
  have hpieces : CutFrom ([b] ++ bs) cut := h
  rcases hpieces.append with hin | hout
  · exact Or.inl (List.length_eq_zero_iff.1 (Nat.lt_one_iff.1 hin.lt))
  · exact Or.inr hout

namespace Step

variable {α β : Type}

/-- The step takes exactly these bytes off a stream, with this result. -/
def Takes (step : Step Stream α) (bs : Stream) (a : α) : Prop :=
  ∀ rest, step.runFrom (bs ++ rest) = (.ok a, rest)

/-- Without the last of these bytes the step uses the stream up and says that it ended. -/
def Needs (step : Step Stream α) (bs : Stream) : Prop :=
  ∀ cut, CutFrom bs cut → ∃ fault : Fault,
    fault.isStreamEnd = true ∧ step.runFrom cut = (.error fault, [])

theorem takes_ofExcept {result : Except Fault α} {a : α} (h : result = .ok a) :
    (ofExcept result).Takes [] a := by
  subst h
  exact fun _ => rfl

theorem needs_nil (step : Step Stream α) : step.Needs [] :=
  fun cut hcut => absurd hcut (not_cutFrom_nil cut)

/-- What a first step needs, the whole needs. -/
theorem Needs.bind {step : Step Stream α} {bs : Stream} (h : step.Needs bs)
    (next : α → Step Stream β) : (step >>= next).Needs bs := by
  intro cut hcut
  obtain ⟨fault, hend, hrun⟩ := h cut hcut
  exact ⟨fault, hend, runFrom_bind_of_error hrun⟩

theorem Needs.append {step : Step Stream α} {next : α → Step Stream β} {bs others : Stream} {a : α}
    (hneeds : step.Needs bs) (htakes : step.Takes bs a) (hnext : (next a).Needs others) :
    (step >>= next).Needs (bs ++ others) := by
  intro cut hcut
  rcases hcut.append with hin | ⟨behind, rfl, hbehind⟩
  · exact hneeds.bind next cut hin
  · obtain ⟨fault, hend, hrun⟩ := hnext behind hbehind
    exact ⟨fault, hend, (runFrom_bind_of_ok (htakes behind)).trans hrun⟩

/-- A step that takes nothing leaves the need to the next one. -/
theorem Needs.after {step : Step Stream α} {next : α → Step Stream β} {bs : Stream} {a : α}
    (htakes : step.Takes [] a) (hnext : (next a).Needs bs) : (step >>= next).Needs bs :=
  (needs_nil step).append htakes hnext

end Step

namespace Record

open Step (Takes Needs takes_ofExcept)

/-! ## One record -/

theorem takes_take {bs : Stream} (h : bs.length ≤ maxPiece) : (take bs.length).Takes bs bs :=
  fun rest => take_append rest h

theorem needs_take {bs : Stream} (h : bs.length ≤ maxPiece) : (take bs.length).Needs bs := by
  intro cut hcut
  have hlt := hcut.lt
  refine ⟨.cutShort bs.length cut.length, rfl, ?_⟩
  rw [take, Step.runFrom_make, if_neg (by omega), if_neg (by omega)]

theorem takes_number (count n : Nat) (h : count ≤ maxPiece) :
    (take count).Takes (Bytes.littleEndian count n) (Bytes.littleEndian count n) :=
  fun rest => take_littleEndian rest h

theorem needs_number (count n : Nat) (h : count ≤ maxPiece) :
    (take count).Needs (Bytes.littleEndian count n) := by
  have hlength := Bytes.length_littleEndian count n
  have hneeds := @needs_take (Bytes.littleEndian count n) (by omega)
  rwa [hlength] at hneeds

/-- The reader needs the whole frame, piece by piece. -/
theorem needs_framed {head payload : List UInt8} {header : Value} {item : ItemType}
    {dims : List Value} {count : Int}
    (hhead : head.length < 2 ^ 32) (hheader : MessagePack.read head = .ok header)
    (hitem : (entry "dtype" header >>= ItemType.ofValue) = .ok item)
    (hdims : (entry "shape" header >>= Value.items) = .ok dims)
    (hcount : impliedCount dims = .ok count)
    (hlength : (payload.length : Int) = count * (item.size : Nat))
    (hpayload : payload.length < 2 ^ 63) :
    readContents.Needs (framed head payload) := by
  have hheadLength : Bytes.toNat (Bytes.littleEndian 4 head.length) = head.length := by
    rw [Bytes.toNat_littleEndian, Nat.mod_eq_of_lt (by omega)]
  have hpayloadLength : Bytes.toNat (Bytes.littleEndian 8 payload.length) = payload.length := by
    rw [Bytes.toNat_littleEndian, Nat.mod_eq_of_lt (by omega)]
  have hheadSize : head.length ≤ maxPiece := by
    rw [maxPiece]
    omega
  have hpayloadSize : payload.length ≤ maxPiece := Nat.le_sub_one_of_lt hpayload
  simp only [framed, List.append_assoc, readContents]
  refine Needs.append (needs_take (by decide)) (takes_take (by decide)) ?_
  simp only [ne_eq, not_true_eq_false, if_false]
  refine Needs.append (needs_number 4 _ (by decide)) (takes_number 4 _ (by decide)) ?_
  rw [hheadLength]
  refine Needs.append (needs_take hheadSize) (takes_take hheadSize) ?_
  refine Needs.after (takes_ofExcept hheader) ?_
  refine Needs.after (takes_ofExcept hitem) ?_
  refine Needs.after (takes_ofExcept hdims) ?_
  refine Needs.append (needs_number 8 _ (by decide)) (takes_number 8 _ (by decide)) ?_
  rw [hpayloadLength]
  refine Needs.after (takes_ofExcept hcount) ?_
  simp only [hlength, not_true_eq_false, if_false]
  exact (needs_take hpayloadSize).bind _

/-! ## Records that were written -/

/-- Whether a value is a name of an array: a text, whole or not, or none. -/
def isName : Value → Bool
  | .null | .text _ | .broken _ => true
  | _ => false

/-- What is asked of an array, of whichever rank: numeric items, and no more of them than can be
addressed. -/
structure Body.Existing (b : Body) : Prop where
  numeric : b.item.Numeric
  addressable : b.shape.addressable b.item.size = true

/-- A single item takes no more room in one dimension than in none. -/
theorem Body.Existing.sound_written {b : Body} (h : b.Existing)
    (hfull : b.bytes.length = b.shape.size * b.item.size) : b.written.Sound := by
  by_cases hshape : b.shape = []
  · have hwritten : b.written = { b with shape := [1] } := if_pos hshape
    have haddressable := h.addressable
    rw [hshape] at haddressable hfull
    rw [hwritten]
    constructor
    · exact h.numeric
    · exact List.cons_ne_nil 1 []
    · simpa [Shape.addressable, Shape.maxRank, Shape.size] using haddressable
    · exact hfull
  · have hwritten : b.written = b := if_neg hshape
    rw [hwritten]
    exact ⟨h.numeric, hshape, h.addressable, hfull⟩

/-- A text is only written if its length fits in front of it. -/
theorem utf8ByteSize_lt_of_write {s : String} {bs : List UInt8}
    (h : MessagePack.write (.text s) = .ok bs) : s.utf8ByteSize < 2 ^ 32 := by
  obtain ⟨first, hfirst, -⟩ := exists_of_bind_eq_ok h
  have hsize : s.toUTF8.data.toList.length = s.utf8ByteSize := rfl
  rw [hsize, MessagePack.textHead, MessagePack.shortest] at hfirst
  split at hfirst
  · omega
  · rcases hfind : [(0xD9, 1), (0xDA, 2), (0xDB, 4)].find?
        fun form : UInt8 × Nat => s.utf8ByteSize < 256 ^ form.2 with _ | form
    · rw [hfind] at hfirst
      cases hfirst
    · have hmem := List.mem_of_find?_eq_some hfind
      have hlt : s.utf8ByteSize < 256 ^ form.2 := by simpa using List.find?_some hfind
      have hroom : ∀ form ∈ [((0xD9 : UInt8), 1), (0xDA, 2), (0xDB, 4)], 256 ^ form.2 ≤ 2 ^ 32 := by
        decide
      exact Nat.lt_of_lt_of_le hlt (hroom form hmem)

theorem exists_write_name {name : Value} {b : Body} {head : List UInt8}
    (h : MessagePack.write (b.header name) = .ok head) :
    ∃ bs, MessagePack.write name = .ok bs := by
  rw [Body.header, MessagePack.write] at h
  obtain ⟨_, -, h⟩ := exists_of_bind_eq_ok h
  obtain ⟨_, hentries, -⟩ := exists_of_bind_eq_ok h
  rw [MessagePack.writeEntries] at hentries
  obtain ⟨_, -, h⟩ := exists_of_bind_eq_ok hentries
  obtain ⟨bs, hwrite, -⟩ := exists_of_bind_eq_ok h
  exact ⟨bs, hwrite⟩

/-- The header of a record that was written is packed. -/
theorem packs_written {name : Value} {b : Body} {head : List UInt8} (hname : isName name = true)
    (hb : b.Sound) (h : MessagePack.write (b.header name) = .ok head) :
    MessagePack.Packs MessagePack.maxDepth (b.header name) head := by
  obtain ⟨bs, hwrite⟩ := exists_write_name h
  have hpacked : ∃ packed, MessagePack.Packs MessagePack.maxDepth (b.header name) packed := by
    match name, hname with
    | .null, _ => exact @Body.Sound.packs_header none b hb nofun
    | .text s, _ =>
      refine @Body.Sound.packs_header (some s) b hb fun t ht => ?_
      obtain rfl : s = t := Option.some.inj ht
      exact utf8ByteSize_lt_of_write hwrite
    | .broken codes, _ => cases hwrite
  obtain ⟨packed, hpacks⟩ := hpacked
  obtain rfl : packed = head := Except.ok.inj (hpacks.written.symm.trans h)
  exact hpacks

/-- The reader needs all bytes of every record that was written, under whichever name. -/
theorem needs_record {name : Value} {b : Body} {record : List UInt8} (hname : isName name = true)
    (hb : b.Existing) (hfull : b.bytes.length = b.shape.size * b.item.size)
    (h : writeBody name b = .ok record) : readContents.Needs record := by
  have hsound := hb.sound_written hfull
  obtain ⟨head, hhead, hrest⟩ := exists_of_bind_eq_ok h
  obtain ⟨four, hfour, -⟩ := exists_of_bind_eq_ok hrest
  have hlength : head.length < 2 ^ 32 := by
    by_contra hlong
    rw [lengthOf, if_neg hlong] at hfour
    cases hfour
  have hframed : writeBody name b.written = .ok (framed head b.written.bytes) :=
    writeBody_eq hsound hhead hlength
  have htwice : writeBody name b.written = writeBody name b := by
    rw [writeBody, hsound.written]
    rfl
  obtain rfl : framed head b.written.bytes = record :=
    Except.ok.inj (hframed.symm.trans (htwice.trans h))
  have hpacks := packs_written hname hsound hhead
  have hitem : (entry "dtype" (b.written.header name) >>= ItemType.ofValue) =
      .ok b.written.item := by
    rw [entry_dtype]
    exact hsound.numeric.ofName_code
  have hdims : (entry "shape" (b.written.header name) >>= Value.items) =
      .ok b.written.shape.values := by
    rw [entry_shape]
    rfl
  refine needs_framed hlength hpacks.read_eq hitem hdims (impliedCount_values hsound.fits) ?_ ?_
  · rw [hsound.full, Int.natCast_mul]
  · rw [hsound.full]
    exact hsound.fits.bytes

end Record

end DataParallel

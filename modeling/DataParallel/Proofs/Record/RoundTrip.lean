import DataParallel.Proofs.MessagePack.RoundTrip
import DataParallel.Proofs.Record.Payload
import DataParallel.Proofs.Tensor.Strided

/-!
# Streams of array records

Arrays that are written one after the other are read back one after the other, with their names,
their item types, their dimensions and the bytes of their items.  A record is read to its end and
no further, so what stands behind it does not matter.
-/

namespace DataParallel.Record

open Step (runFrom_bind_of_ok)

/-! ## The frame of a record -/

theorem take_append {bs : List UInt8} (rest : Stream) (h : bs.length ≤ maxPiece) :
    (take bs.length).runFrom (bs ++ rest) = (.ok bs, rest) := by
  rw [take, Step.runFrom_make, if_neg (by omega), if_pos (by simp), List.take_left, List.drop_left]

theorem take_littleEndian {count n : Nat} (rest : Stream) (h : count ≤ maxPiece) :
    (take count).runFrom (Bytes.littleEndian count n ++ rest) =
      (.ok (Bytes.littleEndian count n), rest) := by
  have hlength := Bytes.length_littleEndian count n
  have htake : (take (Bytes.littleEndian count n).length).runFrom
      (Bytes.littleEndian count n ++ rest) = _ := take_append rest (by omega)
  rwa [hlength] at htake

/-- A header and a payload behind their lengths. -/
def framed (head payload : List UInt8) : List UInt8 :=
  marker ++ Bytes.littleEndian 4 head.length ++ head ++
    Bytes.littleEndian 8 payload.length ++ payload

/-- The reader takes exactly the frame if the header and the payload fit each other. -/
theorem readContents_framed {head payload : List UInt8} {header : Value} {item : ItemType}
    {dims : List Value} {count : Int} {c : Contents} (rest : Stream)
    (hhead : head.length < 2 ^ 32) (hheader : MessagePack.read head = .ok header)
    (hitem : (entry "dtype" header >>= ItemType.ofValue) = .ok item)
    (hdims : (entry "shape" header >>= Value.items) = .ok dims)
    (hcount : impliedCount dims = .ok count)
    (hlength : (payload.length : Int) = count * (item.size : Nat))
    (hpayload : payload.length < 2 ^ 63)
    (hcontents : assemble item dims payload = .ok c) :
    readContents.runFrom (framed head payload ++ rest) =
      (.ok ((header.field? "name").getD .null, c), rest) := by
  have hheadLength : Bytes.toNat (Bytes.littleEndian 4 head.length) = head.length := by
    rw [Bytes.toNat_littleEndian, Nat.mod_eq_of_lt (by omega)]
  have hpayloadLength : Bytes.toNat (Bytes.littleEndian 8 payload.length) = payload.length := by
    rw [Bytes.toNat_littleEndian, Nat.mod_eq_of_lt (by omega)]
  have hheadSize : head.length ≤ maxPiece := by
    rw [maxPiece]
    omega
  have hpayloadSize : payload.length ≤ maxPiece := Nat.le_sub_one_of_lt hpayload
  simp only [framed, List.append_assoc]
  rw [readContents, runFrom_bind_of_ok (take_append _ (by decide))]
  simp only [ne_eq, not_true_eq_false, if_false]
  rw [runFrom_bind_of_ok (take_littleEndian _ (by decide)), hheadLength,
    runFrom_bind_of_ok (take_append _ hheadSize), hheader,
    runFrom_bind_of_ok (Step.runFrom_ofExcept _ _), hitem,
    runFrom_bind_of_ok (Step.runFrom_ofExcept _ _), hdims,
    runFrom_bind_of_ok (Step.runFrom_ofExcept _ _),
    runFrom_bind_of_ok (take_littleEndian _ (by decide)), hpayloadLength, hcount,
    runFrom_bind_of_ok (Step.runFrom_ofExcept _ _)]
  simp only [hlength, not_true_eq_false, if_false]
  rw [runFrom_bind_of_ok (take_append _ hpayloadSize), hcontents,
    runFrom_bind_of_ok (Step.runFrom_ofExcept _ _), Step.runFrom_pure]

/-! ## The header -/

/-- The name in a header: a text, or none. -/
def nameValue : Option String → Value
  | none => .null
  | some s => .text s

theorem nameValue_injective {m n : Option String} (h : nameValue m = nameValue n) : m = n := by
  cases m <;> cases n <;> simp_all [nameValue]

theorem entry_dtype (name : Value) (b : Body) :
    entry "dtype" (b.header name) = .ok (.text b.item.code) := by
  simp [entry, Body.header, Value.find?, Value.same]

theorem entry_shape (name : Value) (b : Body) :
    entry "shape" (b.header name) = .ok (.list b.shape.values) := by
  simp [entry, Body.header, Value.find?, Value.same, Shape.values]

theorem field?_name (name : Value) (b : Body) : (b.header name).field? "name" = some name := by
  simp [Value.field?, Body.header, Value.find?, Value.same]

/-! ## One record -/

/-- What an array that exists gives a record: numeric items, at least one dimension, no more items
than can be addressed, and the bytes of them all. -/
structure Body.Sound (b : Body) : Prop where
  numeric : b.item.Numeric
  ranked : b.shape ≠ []
  addressable : b.shape.addressable b.item.size = true
  full : b.bytes.length = b.shape.size * b.item.size

theorem Body.Sound.written {b : Body} (h : b.Sound) : b.written = b := if_neg h.ranked

theorem lengthOf_of_lt {count : Nat} {piece : List UInt8} (h : piece.length < 256 ^ count) :
    lengthOf count piece = .ok (Bytes.littleEndian count piece.length) := if_pos h

theorem Body.Sound.fits {b : Body} (h : b.Sound) : b.shape.Fits b.item.size :=
  .of_addressable h.numeric.size_pos h.addressable

/-- The header of every record can be packed unless the name is too long. -/
theorem Body.Sound.packs_header {name : Option String} {b : Body} (h : b.Sound)
    (hname : ∀ s, name = some s → s.utf8ByteSize < 2 ^ 32) :
    ∃ head, MessagePack.Packs MessagePack.maxDepth (b.header (nameValue name)) head := by
  have hnameValue : ∃ bs, MessagePack.Packs 1023 (nameValue name) bs := by
    cases name with
    | none => exact ⟨_, MessagePack.packs_null 1023⟩
    | some s => exact MessagePack.packs_text (hname s rfl) 1023
  have hcode : ∃ bs, MessagePack.Packs 1023 (.text b.item.code) bs :=
    MessagePack.packs_text (Nat.lt_of_le_of_lt h.numeric.code_le (by decide)) 1023
  have hshape : ∃ bs, MessagePack.Packs 1023 (.list b.shape.values) bs := by
    refine MessagePack.packs_list ?_ fun v hv => ?_
    · rw [Shape.values, List.length_map]
      exact Nat.lt_of_le_of_lt h.fits.rank (by decide)
    · obtain ⟨d, hd, rfl⟩ := List.mem_map.1 hv
      exact MessagePack.packs_nat (Nat.lt_trans (h.fits.dimension_lt hd) (by decide)) 1022
  refine MessagePack.packs_record ?_ ?_ ?_ fun e he => ?_
  · show 3 < 2 ^ 32
    decide
  · simp [MessagePack.isMessageKey]
  · simp [Value.same]
  · simp only [List.mem_cons, List.not_mem_nil, or_false] at he
    rcases he with rfl | rfl | rfl
    · exact ⟨MessagePack.packs_text (by decide) 1023, hnameValue⟩
    · exact ⟨MessagePack.packs_text (by decide) 1023, hcode⟩
    · exact ⟨MessagePack.packs_text (by decide) 1023, hshape⟩

theorem writeBody_eq {name : Value} {b : Body} {head : List UInt8} (hb : b.Sound)
    (hhead : MessagePack.write (b.header name) = .ok head) (hlength : head.length < 2 ^ 32) :
    writeBody name b = .ok (framed head b.bytes) := by
  have hpayload : b.bytes.length < 256 ^ 8 := by
    rw [hb.full]
    exact Nat.lt_trans hb.fits.bytes (by decide)
  have hfour : lengthOf 4 head = .ok (Bytes.littleEndian 4 head.length) := lengthOf_of_lt hlength
  simp only [writeBody, hb.written, hhead, hfour, lengthOf_of_lt hpayload, ok_bind]
  rfl

/-- Numbers are written as they are by value, in whichever order they lie. -/
theorem writeArray_ofTensor (name : Value) (t : Tensor) (order : MemoryOrder) :
    writeArray name (.ofTensor t order) = write name t := by
  have hbody : Body.ofStrided (.ofTensor t order) = Body.ofTensor t := by
    rw [Body.ofStrided, Strided.shape_ofTensor, Strided.bytes_ofTensor]
    rfl
  rw [writeArray, write, hbody]

/-- A record is read back to the body that was written, and to its last byte. -/
theorem exists_read {name : Option String} {b : Body} {head : List UInt8} (hb : b.Sound)
    (hhead : MessagePack.Packs MessagePack.maxDepth (b.header (nameValue name)) head)
    (hlength : head.length < 2 ^ 32) :
    ∃ c : Contents, c.body = b ∧ ∀ rest,
      readContents.runFrom (framed head b.bytes ++ rest) = (.ok (nameValue name, c), rest) := by
  obtain ⟨c, hcontents, hc⟩ := assemble_values hb.numeric hb.addressable hb.full
  refine ⟨c, hc, fun rest => ?_⟩
  have hitem : (entry "dtype" (b.header (nameValue name)) >>= ItemType.ofValue) = .ok b.item := by
    rw [entry_dtype]
    exact hb.numeric.ofName_code
  have hdims : (entry "shape" (b.header (nameValue name)) >>= Value.items) =
      .ok b.shape.values := by
    rw [entry_shape]
    rfl
  have hread := readContents_framed rest hlength hhead.read_eq hitem hdims
    (impliedCount_values hb.fits) (by rw [hb.full, Int.natCast_mul])
    (by rw [hb.full]; exact hb.fits.bytes) hcontents
  rw [hread, field?_name]
  rfl

/-! ## Streams -/

/-- An array and the name under which it is written, if there is one. -/
structure Named where
  name : Option String
  array : Strided

namespace Named

/-- The body of the record. -/
def body (e : Named) : Body := .ofStrided e.array

/-- The record. -/
def write (e : Named) : Except Fault (List UInt8) := writeArray (nameValue e.name) e.array

/-- What is asked of an array and its name: truth values, integers or floats in at least one
dimension, an array that can exist, and a name and a header whose lengths fit in front of them.
How the items lie in memory is left open. -/
structure Writable (e : Named) : Prop where
  numeric : e.array.item.Numeric
  ranked : e.array.shape ≠ []
  addressable : e.array.shape.addressable e.array.item.size = true
  named : ∀ s, e.name = some s → s.utf8ByteSize < 2 ^ 32
  header : ∀ head, MessagePack.write (e.body.header (nameValue e.name)) = .ok head →
    head.length < 2 ^ 32

/-- What a reader gives is what was written: the name, the type of the items with its byte order,
the dimensions, and the bytes of the items in row-major order. -/
structure ReadBack (e : Named) (read : Value × Contents) : Prop where
  name : read.1 = nameValue e.name
  item : read.2.body.item = e.array.item
  shape : read.2.body.shape = e.array.shape
  bytes : read.2.body.bytes = e.array.bytes

theorem Writable.sound {e : Named} (h : e.Writable) : e.body.Sound where
  numeric := h.numeric
  ranked := h.ranked
  addressable := h.addressable
  full := e.array.length_bytes

end Named

/-- Reads a number of records. -/
def readSeries : Nat → Step Stream (List (Value × Contents))
  | 0 => pure []
  | count + 1 => do
    let first ← readContents
    let others ← readSeries count
    return first :: others

/-- The array that is made of what was read: row by row in a block of its own. -/
def inMemory (c : Contents) : Strided :=
  .inBlock c.body.item (Axis.rowMajor c.body.shape) 0 c.body.bytes

theorem ofStrided_inMemory {c : Contents} (h : c.body.Sound) :
    Body.ofStrided (inMemory c) = c.body := by
  have hshape : (inMemory c).shape = c.body.shape := by
    rw [inMemory, Strided.shape_inBlock, Axis.map_length_rowMajor]
  have hbytes : (inMemory c).bytes = c.body.bytes := Strided.bytes_rowMajor h.full
  rw [Body.ofStrided, hshape, hbytes]
  rfl

/-- A record of an array, and what is read from it: the reader stops at the end of the record, it
gives what was written, and an array made of that has the same record. -/
structure Recorded (e : Named) (record : List UInt8) (read : Value × Contents) : Prop where
  written : e.write = .ok record
  exact : ∀ rest, readContents.runFrom (record ++ rest) = (.ok read, rest)
  readBack : e.ReadBack read
  rewritten : writeArray read.1 (inMemory read.2) = .ok record

theorem Named.Writable.exists_recorded {e : Named} (h : e.Writable) :
    ∃ record read, Recorded e record read := by
  obtain ⟨head, hhead⟩ := h.sound.packs_header h.named
  have hlength := h.header head hhead.written
  obtain ⟨c, hc, hread⟩ := exists_read h.sound hhead hlength
  have hwritten : e.write = .ok (framed head e.body.bytes) :=
    writeBody_eq h.sound hhead.written hlength
  refine ⟨framed head e.body.bytes, (nameValue e.name, c), hwritten, hread, ?_, ?_⟩
  · constructor
    · rfl
    · exact congrArg Body.item hc
    · exact congrArg Body.shape hc
    · exact congrArg Body.bytes hc
  · have hsound : c.body.Sound := hc ▸ h.sound
    rw [writeArray, ofStrided_inMemory hsound, hc]
    exact hwritten

/-- Arrays with one record are the same but for their places in memory. -/
theorem Recorded.unique {e e' : Named} {record : List UInt8} {read read' : Value × Contents}
    (h : Recorded e record read) (h' : Recorded e' record read') :
    e.name = e'.name ∧ e.body = e'.body := by
  have hreads : read = read' := by
    have hsame := (h.exact []).symm.trans (h'.exact [])
    exact Except.ok.inj (congrArg Prod.fst hsame)
  subst hreads
  have hbody : e.body = e'.body := by
    rcases h.readBack with ⟨-, hitem, hshape, hbytes⟩
    rcases h'.readBack with ⟨-, hitem', hshape', hbytes'⟩
    rw [Named.body, Named.body, Body.ofStrided, Body.ofStrided, ← hitem, ← hshape, ← hbytes, hitem',
      hshape', hbytes']
  exact ⟨nameValue_injective (h.readBack.name.symm.trans h'.readBack.name), hbody⟩

theorem Named.write_eq_iff {e e' : Named} (h : e.Writable) (h' : e'.Writable) :
    e.write = e'.write ↔ e.name = e'.name ∧ e.body = e'.body := by
  obtain ⟨record, read, hrecorded⟩ := h.exists_recorded
  obtain ⟨record', read', hrecorded'⟩ := h'.exists_recorded
  constructor
  · intro hsame
    have hrecords : record = record' :=
      Except.ok.inj (hrecorded.written.symm.trans (hsame.trans hrecorded'.written))
    subst hrecords
    exact hrecorded.unique hrecorded'
  · rintro ⟨hname, hbody⟩
    show writeBody (nameValue e.name) e.body = writeBody (nameValue e'.name) e'.body
    rw [hname, hbody]

/-- The arrays of a stream, their records, and what is read from each. -/
inductive Transcript : List Named → List (List UInt8) → List (Value × Contents) → Prop
  | nil : Transcript [] [] []
  | cons {e : Named} {es : List Named} {record : List UInt8} {records : List (List UInt8)}
      {read : Value × Contents} {reads : List (Value × Contents)} (first : Recorded e record read)
      (others : Transcript es records reads) :
      Transcript (e :: es) (record :: records) (read :: reads)

namespace Transcript

variable {es : List Named} {records : List (List UInt8)} {reads : List (Value × Contents)}

theorem written (h : Transcript es records reads) : es.mapM Named.write = .ok records := by
  induction h with
  | nil => rfl
  | cons first others ih =>
    rw [List.mapM_cons, first.written, ih]
    rfl

/-- By induction on the stream: the first record is read and leaves the others. -/
theorem read (h : Transcript es records reads) (tail : Stream) :
    (readSeries es.length).runFrom (records.flatten ++ tail) = (.ok reads, tail) := by
  induction h with
  | nil => rfl
  | cons first others ih =>
    rw [List.flatten_cons, List.append_assoc, List.length_cons, readSeries,
      runFrom_bind_of_ok (first.exact _), runFrom_bind_of_ok ih, Step.runFrom_pure]

end Transcript

theorem exists_transcript {es : List Named} (h : ∀ e ∈ es, e.Writable) :
    ∃ records reads, Transcript es records reads := by
  induction es with
  | nil => exact ⟨[], [], .nil⟩
  | cons e es ih =>
    obtain ⟨record, read, hfirst⟩ := (h e List.mem_cons_self).exists_recorded
    obtain ⟨records, reads, hothers⟩ := ih fun e he => h e (List.mem_cons_of_mem _ he)
    exact ⟨record :: records, read :: reads, .cons hfirst hothers⟩

/-- Every stream of arrays is read back as it was written, record by record, and what stands
behind it is left; two arrays have one record only if nothing but their places in memory tells
them apart. -/
theorem stream_read_back (entries : List Named) (tail : Stream) (h : ∀ e ∈ entries, e.Writable) :
    ∃ records reads,
      Transcript entries records reads ∧
      entries.mapM Named.write = .ok records ∧
      (readSeries entries.length).runFrom (records.flatten ++ tail) = (.ok reads, tail) ∧
      ∀ e ∈ entries, ∀ e' ∈ entries,
        (e.write = e'.write ↔ e.name = e'.name ∧ e.body = e'.body) := by
  obtain ⟨records, reads, htranscript⟩ := exists_transcript h
  refine ⟨records, reads, htranscript, htranscript.written, htranscript.read tail, ?_⟩
  intro e he e' he'
  exact Named.write_eq_iff (h e he) (h e' he')

/-- Two rows of two-byte integers, the first dimension running fastest in memory. -/
def square : Named where
  name := some "w"
  array := .ofTensor ⟨⟨.signed .two, true⟩, [2, 2], [1, 2, 3, 4], rfl⟩ .columnMajor

/-- Long floats in no rows, with the rows backwards. -/
def noRows : Named where
  name := none
  array := ⟨.marked false "f16" 16, [⟨0, -48⟩, ⟨3, 16⟩], 0, fun _ => 0⟩

theorem writable_square : square.Writable where
  numeric := .number ⟨.signed .two, true⟩ (by decide)
  ranked := by decide
  addressable := by decide
  named s hs := by
    cases hs
    decide
  header head hhead := by
    -- The packed record of the three entries `name`, `dtype` and `shape`.
    have hpacked : MessagePack.write (square.body.header (nameValue square.name)) =
        .ok [0x83, 0xA4, 0x6E, 0x61, 0x6D, 0x65, 0xA1, 0x77,
          0xA5, 0x64, 0x74, 0x79, 0x70, 0x65, 0xA3, 0x3E, 0x69, 0x32,
          0xA5, 0x73, 0x68, 0x61, 0x70, 0x65, 0x92, 0x02, 0x02] := by
      rfl
    obtain rfl := Except.ok.inj (hpacked.symm.trans hhead)
    decide

theorem writable_noRows : noRows.Writable where
  numeric := .longFloat false
  ranked := by decide
  addressable := by decide
  named := nofun
  header head hhead := by
    have hpacked : MessagePack.write (noRows.body.header (nameValue noRows.name)) =
        .ok [0x83, 0xA4, 0x6E, 0x61, 0x6D, 0x65, 0xC0,
          0xA5, 0x64, 0x74, 0x79, 0x70, 0x65, 0xA4, 0x3C, 0x66, 0x31, 0x36,
          0xA5, 0x73, 0x68, 0x61, 0x70, 0x65, 0x92, 0x00, 0x03] := by
      rfl
    obtain rfl := Except.ok.inj (hpacked.symm.trans hhead)
    decide

theorem stream_read_back_pair :
    (∀ e ∈ [square, noRows], e.Writable) ∧
    ∃ records reads,
      Transcript [square, noRows] records reads ∧
      [square, noRows].mapM Named.write = .ok records ∧
      (readSeries 2).runFrom (records.flatten ++ [0x50, 0x53]) = (.ok reads, [0x50, 0x53]) ∧
      ∀ e ∈ [square, noRows], ∀ e' ∈ [square, noRows],
        (e.write = e'.write ↔ e.name = e'.name ∧ e.body = e'.body) := by
  have hwritable : ∀ e ∈ [square, noRows], e.Writable := by
    intro e he
    simp only [List.mem_cons, List.not_mem_nil, or_false] at he
    rcases he with rfl | rfl
    · exact writable_square
    · exact writable_noRows
  exact ⟨hwritable, stream_read_back [square, noRows] [0x50, 0x53] hwritable⟩

end DataParallel.Record

import DataParallel.Proofs.Record.RoundTrip

/-!
# What the reader of records takes

A record is read in parts: the marker and the header as bytes, what the header says of the items,
and the payload.  The reader succeeds exactly on the streams that begin with a frame whose parts fit
each other, and it takes this frame and nothing behind it.
-/

namespace DataParallel

namespace Step

variable {σ α β : Type}

theorem ofExcept_pure (a : α) : (ofExcept (pure a) : Step σ α) = pure a := rfl

theorem ofExcept_bind (x : Except Fault α) (f : α → Except Fault β) :
    (ofExcept (x >>= f) : Step σ β) = ofExcept x >>= fun a => ofExcept (f a) := by
  rcases x with _ | _ <;> rfl

theorem ite_bind {c : Prop} [Decidable c] (yes no : Step σ α) (next : α → Step σ β) :
    (if c then yes else no) >>= next = if c then yes >>= next else no >>= next := by
  split <;> rfl

end Step

namespace Record

open Step (runFrom_bind_eq_ok runFrom_bind_of_ok)

/-! ## Pieces of a stream -/

theorem take_eq_ok {n : Nat} {bs piece rest : Stream} :
    (take n).runFrom bs = (.ok piece, rest) ↔
      n ≤ maxPiece ∧ bs = piece ++ rest ∧ piece.length = n := by
  constructor
  · intro hrun
    rw [take, Step.runFrom_make] at hrun
    split at hrun
    · cases hrun
    next hmax =>
      split at hrun
      next hlength =>
        obtain ⟨hpiece, hrest⟩ := Prod.mk.inj hrun
        rw [← Except.ok.inj hpiece, ← hrest]
        exact ⟨Nat.le_of_not_lt hmax, (List.take_append_drop n bs).symm,
          List.length_take_of_le hlength⟩
      · cases hrun
  · rintro ⟨hmax, rfl, rfl⟩
    exact take_append rest hmax

/-- A number in front of a stream is the bytes that it was read from. -/
theorem take_number {count : Nat} {bs digits rest : Stream}
    (h : (take count).runFrom bs = (.ok digits, rest)) :
    bs = Bytes.littleEndian count (Bytes.toNat digits) ++ rest ∧
      Bytes.toNat digits < 256 ^ count := by
  obtain ⟨-, hbs, rfl⟩ := take_eq_ok.mp h
  exact ⟨by rw [Bytes.littleEndian_toNat, hbs], Bytes.toNat_lt digits⟩

/-! ## The parts of a record -/

/-- Takes the marker and the bytes of the header. -/
def takeHead : Step Stream (List UInt8) := do
  let mark ← take marker.length
  if mark ≠ marker then throw (.badMarker mark)
  let headLength ← take 4
  take (Bytes.toNat headLength)

/-- What a header says of the items: their type and their dimensions. -/
def heading (header : Value) : Except Fault (ItemType × List Value) := do
  let item ← entry "dtype" header >>= ItemType.ofValue
  let dims ← entry "shape" header >>= Value.items
  return (item, dims)

/-- Takes the payload, whose length must be the one that the header implies. -/
def takeContents (item : ItemType) (dims : List Value) : Step Stream Contents := do
  let payloadLength := Bytes.toNat (← take 8)
  let count ← Step.ofExcept (impliedCount dims)
  let implied := count * (item.size : Nat)
  if (payloadLength : Int) ≠ implied then throw (.payloadSize payloadLength implied)
  let payload ← take payloadLength
  Step.ofExcept (assemble item dims payload)

theorem readContents_eq : readContents = (do
    let head ← takeHead
    let header ← Step.ofExcept (MessagePack.read head)
    let (item, dims) ← Step.ofExcept (heading header)
    let c ← takeContents item dims
    return ((header.field? "name").getD .null, c)) := by
  simp only [readContents, takeHead, heading, takeContents, Step.ofExcept_bind,
    Step.ofExcept_pure, Step.ite_bind, bind_assoc, pure_bind]

theorem takeHead_eq_ok {bs head rest : Stream} :
    takeHead.runFrom bs = (.ok head, rest) ↔
      head.length < 2 ^ 32 ∧
        bs = marker ++ (Bytes.littleEndian 4 head.length ++ (head ++ rest)) := by
  constructor
  · intro hrun
    obtain ⟨mark, s, hmark, hrun⟩ := runFrom_bind_eq_ok hrun
    split at hrun
    · cases hrun
    next hmarker =>
    obtain rfl := not_not.mp hmarker
    obtain ⟨digits, t, hdigits, hhead⟩ := runFrom_bind_eq_ok hrun
    obtain ⟨-, hbs, -⟩ := take_eq_ok.mp hmark
    obtain ⟨hs, hlt⟩ := take_number hdigits
    obtain ⟨-, ht, hlength⟩ := take_eq_ok.mp hhead
    rw [hlength]
    exact ⟨hlt, by rw [hbs, hs, ht]⟩
  · rintro ⟨hlength, rfl⟩
    have hdigits : Bytes.toNat (Bytes.littleEndian 4 head.length) = head.length := by
      rw [Bytes.toNat_littleEndian, Nat.mod_eq_of_lt hlength]
    have hsize : head.length ≤ maxPiece := by
      rw [maxPiece]
      omega
    rw [takeHead, runFrom_bind_of_ok (take_append _ (by decide)), if_neg (not_not.mpr rfl),
      runFrom_bind_of_ok (take_littleEndian _ (by decide)), hdigits]
    exact take_append rest hsize

/-- The items of a type and with some dimensions are stored in a payload. -/
structure Stores (item : ItemType) (dims : List Value) (payload : List UInt8) (c : Contents) :
    Prop where
  small : payload.length < 2 ^ 63
  implied : ∃ count, impliedCount dims = .ok count ∧
    (payload.length : Int) = count * (item.size : Nat)
  contents : assemble item dims payload = .ok c

theorem takeContents_eq_ok {item : ItemType} {dims : List Value} {bs rest : Stream} {c : Contents} :
    (takeContents item dims).runFrom bs = (.ok c, rest) ↔
      ∃ payload, bs = Bytes.littleEndian 8 payload.length ++ (payload ++ rest) ∧
        Stores item dims payload c := by
  constructor
  · intro hrun
    obtain ⟨digits, s, hdigits, hrun⟩ := runFrom_bind_eq_ok hrun
    obtain ⟨count, t, himplied, hrun⟩ := runFrom_bind_eq_ok hrun
    obtain ⟨hcount, rfl⟩ := Prod.mk.inj himplied
    dsimp only at hrun
    split at hrun
    · cases hrun
    next hsize =>
    obtain ⟨payload, u, hpayload, hrun⟩ := runFrom_bind_eq_ok hrun
    obtain ⟨hcontents, rfl⟩ := Prod.mk.inj hrun
    obtain ⟨hbs, -⟩ := take_number hdigits
    obtain ⟨hmax, hs, hlength⟩ := take_eq_ok.mp hpayload
    refine ⟨payload, ?_, ?_, ⟨count, hcount, ?_⟩, hcontents⟩
    · rw [hbs, hs, hlength]
    · rw [hlength]
      exact Nat.lt_of_le_of_lt hmax (by decide)
    · rw [hlength]
      exact not_not.mp hsize
  · rintro ⟨payload, rfl, hsmall, ⟨count, hcount, hlength⟩, hcontents⟩
    have hdigits : Bytes.toNat (Bytes.littleEndian 8 payload.length) = payload.length := by
      rw [Bytes.toNat_littleEndian, Nat.mod_eq_of_lt (by omega)]
    rw [takeContents, runFrom_bind_of_ok (take_littleEndian _ (by decide)), hdigits, hcount,
      runFrom_bind_of_ok (Step.runFrom_ofExcept _ _), if_neg (not_not.mpr hlength),
      runFrom_bind_of_ok (take_append _ (Nat.le_sub_one_of_lt hsmall)), hcontents]
    rfl

/-! ## Whole records -/

/-- What stands in a record: the bytes of the header with what they say, and the payload. -/
structure Frame where
  head : List UInt8
  header : Value
  item : ItemType
  dims : List Value
  payload : List UInt8

namespace Frame

/-- The name in the header. -/
def name (f : Frame) : Value := (f.header.field? "name").getD .null

/-- The stream begins with the frame, with the lengths of its parts in front of them, and the header
says what the frame has. -/
structure Begins (f : Frame) (bs rest : Stream) : Prop where
  stream : bs = framed f.head f.payload ++ rest
  short : f.head.length < 2 ^ 32
  header : MessagePack.read f.head = .ok f.header
  heading : heading f.header = .ok (f.item, f.dims)

end Frame

/-- What the reader gives, and what it leaves. -/
theorem readContents_eq_ok {bs rest : Stream} {name : Value} {c : Contents} :
    readContents.runFrom bs = (.ok (name, c), rest) ↔
      ∃ f : Frame, f.Begins bs rest ∧ name = f.name ∧ Stores f.item f.dims f.payload c := by
  rw [readContents_eq]
  constructor
  · intro hrun
    obtain ⟨head, s, hhead, hrun⟩ := runFrom_bind_eq_ok hrun
    obtain ⟨header, t, hread, hrun⟩ := runFrom_bind_eq_ok hrun
    obtain ⟨hheader, rfl⟩ := Prod.mk.inj hread
    obtain ⟨⟨item, dims⟩, t, hsays, hrun⟩ := runFrom_bind_eq_ok hrun
    obtain ⟨hheading, rfl⟩ := Prod.mk.inj hsays
    obtain ⟨c', t, hcontents, hrun⟩ := runFrom_bind_eq_ok hrun
    obtain ⟨hresult, rfl⟩ := Prod.mk.inj hrun
    obtain ⟨rfl, rfl⟩ := Prod.mk.inj (Except.ok.inj hresult)
    obtain ⟨hshort, hbs⟩ := takeHead_eq_ok.mp hhead
    obtain ⟨payload, hs, hstores⟩ := takeContents_eq_ok.mp hcontents
    refine ⟨⟨head, header, item, dims, payload⟩, ⟨?_, hshort, hheader, hheading⟩, rfl, hstores⟩
    rw [hbs, hs]
    simp only [framed, List.append_assoc]
  · rintro ⟨f, hf, rfl, hstores⟩
    have hhead : takeHead.runFrom bs =
        (.ok f.head, Bytes.littleEndian 8 f.payload.length ++ (f.payload ++ rest)) := by
      refine takeHead_eq_ok.mpr ⟨hf.short, ?_⟩
      rw [hf.stream]
      simp only [framed, List.append_assoc]
    rw [runFrom_bind_of_ok hhead, hf.header, runFrom_bind_of_ok (Step.runFrom_ofExcept _ _),
      hf.heading, runFrom_bind_of_ok (Step.runFrom_ofExcept _ _),
      runFrom_bind_of_ok (takeContents_eq_ok.mpr ⟨f.payload, rfl, hstores⟩)]
    rfl

end Record

end DataParallel

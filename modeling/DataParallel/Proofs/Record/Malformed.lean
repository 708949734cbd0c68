import DataParallel.Proofs.Record.Accepted
import DataParallel.Proofs.Record.Faults
import DataParallel.Proofs.Record.Truncated

/-!
# Streams that hold no record

The reader of records announces two kinds of faults: the stream ended, or its bytes are no record.
Bytes that are cut off, a wrong marker and bytes of the header that are no packed message always end
in an announced fault.  What a readable header says is taken as it stands, though: a header that is
no record, lacks an entry or has entries of a strange kind may lead the reader to a fault of another
kind.  `Astray` lists all the ways in which this happens; a regular header is not among them.
-/

namespace DataParallel

namespace Record

open Step (runFrom_bind_of_ok runFrom_bind_of_error runFrom_bind_eq_ok runFrom_bind_eq_error)

/-! ## Up to the header -/

/-- The stream begins with the marker and with a header, whose packed bytes say this. -/
def Opens (bs : Stream) (header : Value) (rest : Stream) : Prop :=
  ∃ head : List UInt8, takeHead.runFrom bs = (.ok head, rest) ∧ MessagePack.read head = .ok header

/-- Behind the header, the reader goes on with what the header says. -/
theorem readContents_of_opens {bs rest : Stream} {header : Value} (h : Opens bs header rest) :
    readContents.runFrom bs = (Step.ofExcept (heading header) >>= fun (item, dims) => do
      let c ← takeContents item dims
      return ((header.field? "name").getD .null, c)).runFrom rest := by
  obtain ⟨head, hhead, hread⟩ := h
  rw [readContents_eq, runFrom_bind_of_ok hhead, hread,
    runFrom_bind_of_ok (Step.runFrom_ofExcept _ _)]

/-- What a header and the bytes behind it lead the reader to, if it is no announced fault. -/
inductive Strays : Value → Stream → Fault → Prop
  | noRecord {header : Value} {rest : Stream} (other : ∀ es, header ≠ .record es) :
      Strays header rest .wrongType
  | noType {es : List (Value × Value)} {rest : Stream}
      (missing : Value.find? (.text "dtype") es = none) : Strays (.record es) rest .missingKey
  | badType {es : List (Value × Value)} {rest : Stream} {v : Value} {fault : Fault}
      (found : Value.find? (.text "dtype") es = some v) (bad : ItemType.ofValue v = .error fault)
      (kind : fault = .wrongType ∨ fault = .malformed) : Strays (.record es) rest fault
  | noShape {es : List (Value × Value)} {rest : Stream} {item : ItemType}
      (typed : entry "dtype" (.record es) >>= ItemType.ofValue = .ok item)
      (missing : Value.find? (.text "shape") es = none) : Strays (.record es) rest .missingKey
  | badShape {es : List (Value × Value)} {rest : Stream} {item : ItemType} {v : Value}
      (typed : entry "dtype" (.record es) >>= ItemType.ofValue = .ok item)
      (found : Value.find? (.text "shape") es = some v) (bad : v.items = .error .wrongType) :
      Strays (.record es) rest .wrongType
  | badCount {header : Value} {rest : Stream} {item : ItemType} {dims : List Value} {fault : Fault}
      (heads : heading header = .ok (item, dims)) (long : 8 ≤ rest.length)
      (bad : impliedCount dims = .error fault) (kind : fault = .wrongType ∨ fault = .tooLarge) :
      Strays header rest fault
  | tooLong {header : Value} {rest : Stream} {item : ItemType} {dims : List Value} {count : Int}
      (heads : heading header = .ok (item, dims)) (long : 8 ≤ rest.length)
      (counted : impliedCount dims = .ok count)
      (implied : (Bytes.toNat (rest.take 8) : Int) = count * (item.size : Nat))
      (large : 2 ^ 63 ≤ Bytes.toNat (rest.take 8)) : Strays header rest .tooLarge
  | badDimension {header : Value} {item : ItemType} {dims : List Value} {payload left : Stream}
      {count : Int} (heads : heading header = .ok (item, dims)) (small : payload.length < 2 ^ 63)
      (counted : impliedCount dims = .ok count)
      (implied : (payload.length : Int) = count * (item.size : Nat))
      (bad : assemble item dims payload = .error .wrongType) :
      Strays header (Bytes.littleEndian 8 payload.length ++ (payload ++ left)) .wrongType

theorem entry_record (key : String) (es : List (Value × Value)) :
    entry key (.record es) = (Value.find? (.text key) es).elim (.error .missingKey) .ok :=
  rfl

section Behind

variable {bs rest left : Stream} {header : Value} {item : ItemType} {dims : List Value}
  {fault : Fault}

theorem runFrom_of_heading (hopens : Opens bs header rest) (h : heading header = .error fault) :
    readContents.runFrom bs = (.error fault, rest) := by
  rw [readContents_of_opens hopens, h]
  rfl

theorem runFrom_of_takeContents (hopens : Opens bs header rest)
    (heads : heading header = .ok (item, dims))
    (h : (takeContents item dims).runFrom rest = (.error fault, left)) :
    readContents.runFrom bs = (.error fault, left) := by
  rw [readContents_of_opens hopens, heads, runFrom_bind_of_ok (Step.runFrom_ofExcept _ _),
    runFrom_bind_of_error h]

theorem take_length {n : Nat} (hn : n ≤ maxPiece) (hlong : n ≤ rest.length) :
    (take n).runFrom rest = (.ok (rest.take n), rest.drop n) :=
  take_eq_ok.mpr ⟨hn, (List.take_append_drop n rest).symm, List.length_take_of_le hlong⟩

theorem heading_of_type {item : ItemType}
    (htype : entry "dtype" header >>= ItemType.ofValue = .ok item) :
    heading header = entry "shape" header >>= Value.items >>= fun dims => .ok (item, dims) := by
  rw [heading, htype]
  rfl

end Behind

/-- Every cause leads to its fault. -/
theorem Strays.runs {header : Value} {rest : Stream} {fault : Fault} (h : Strays header rest fault)
    {bs : Stream} (hopens : Opens bs header rest) :
    ∃ left, readContents.runFrom bs = (.error fault, left) := by
  cases h with
  | noRecord other =>
    refine ⟨_, runFrom_of_heading hopens ?_⟩
    cases header with
    | record es => exact absurd rfl (other es)
    | _ => rfl
  | noType missing =>
    refine ⟨_, runFrom_of_heading hopens ?_⟩
    rw [heading, entry_record, missing]
    rfl
  | badType found bad kind =>
    refine ⟨_, runFrom_of_heading hopens ?_⟩
    rw [heading, entry_record, found]
    simp only [Option.elim, ok_bind, bad]
    rfl
  | noShape typed missing =>
    refine ⟨_, runFrom_of_heading hopens ?_⟩
    rw [heading_of_type typed, entry_record, missing]
    rfl
  | badShape typed found bad =>
    refine ⟨_, runFrom_of_heading hopens ?_⟩
    rw [heading_of_type typed, entry_record, found]
    simp only [Option.elim, ok_bind, bad]
    rfl
  | badCount heads long bad kind =>
    refine ⟨rest.drop 8, runFrom_of_takeContents hopens heads ?_⟩
    rw [takeContents, runFrom_bind_of_ok (take_length (by decide) long), bad]
    rfl
  | tooLong heads long counted implied large =>
    refine ⟨rest.drop 8, runFrom_of_takeContents hopens heads ?_⟩
    rw [takeContents, runFrom_bind_of_ok (take_length (by decide) long), counted,
      runFrom_bind_of_ok (Step.runFrom_ofExcept _ _), if_neg (not_not.mpr implied)]
    refine runFrom_bind_of_error ?_
    rw [take, Step.runFrom_make, if_pos (show maxPiece < _ from large)]
  | @badDimension _ _ _ _ left _ heads small counted implied bad =>
    refine ⟨left, runFrom_of_takeContents hopens heads ?_⟩
    rw [takeContents, runFrom_bind_of_ok (take_littleEndian _ (by decide)),
      Bytes.toNat_littleEndian, Nat.mod_eq_of_lt (by omega), counted,
      runFrom_bind_of_ok (Step.runFrom_ofExcept _ _), if_neg (not_not.mpr implied),
      runFrom_bind_of_ok (take_append _ (Nat.le_sub_one_of_lt small)), bad]
    rfl

/-- The reader goes astray on a stream, by what its header says. -/
def Astray (bs : Stream) (fault : Fault) : Prop :=
  ∃ header rest, Opens bs header rest ∧ Strays header rest fault

theorem Opens.unique {bs rest rest' : Stream} {header header' : Value} (h : Opens bs header rest)
    (h' : Opens bs header' rest') : header = header' ∧ rest = rest' := by
  obtain ⟨head, hhead, hread⟩ := h
  obtain ⟨head', hhead', hread'⟩ := h'
  obtain ⟨hsame, hrest⟩ := Prod.mk.inj (hhead.symm.trans hhead')
  obtain rfl := Except.ok.inj hsame
  exact ⟨Except.ok.inj (hread.symm.trans hread'), hrest⟩

/-- A header with the name of an item type and with whole dimensions within eight bytes, in front
of a length that can be asked for. -/
structure Regular (header : Value) (rest : Stream) : Prop where
  typed : ∃ item, entry "dtype" header >>= ItemType.ofValue = .ok item
  shaped : ∃ ns : List Int, entry "shape" header >>= Value.items = .ok (ns.map Value.int) ∧
    ∀ n ∈ ns, -(2 ^ 63 : Int) ≤ n ∧ n < 2 ^ 63
  small : Bytes.toNat (rest.take 8) < 2 ^ 63

theorem Strays.kind {header : Value} {rest : Stream} {fault : Fault}
    (h : Strays header rest fault) :
    fault ∈ [.missingKey, .wrongType, .malformed, .tooLarge] := by
  cases h with
  | badType _ _ kind => rcases kind with rfl | rfl <;> simp
  | badCount _ _ _ kind => rcases kind with rfl | rfl <;> simp
  | _ => simp

end Record

end DataParallel

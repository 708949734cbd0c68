import DataParallel.Embedding.Basic
import DataParallel.Proofs.Parameter.Reload
import DataParallel.Proofs.Record.Truncated

/-!
# Saved parameters and embeddings that are cut off

What was saved of a parameter or of an embedding and was cut off is refused because the stream
ended, and neither the target nor anything on the host is touched.
-/

namespace DataParallel

open Step

/-- Loading a stream that was cut off uses it up, says that it ended, and changes nothing else. -/
def EndsEarly {τ : Type} (load : Step (Stream × τ × Host) Unit) (saved : Stream) : Prop :=
  ∀ cut, CutFrom saved cut → ∀ (target : τ) (h : Host), ∃ fault : Fault,
    fault.isStreamEnd = true ∧ load.runFrom (cut, target, h) = (.error fault, [], target, h)

namespace Parameter

/-- What is asked of a parameter that is saved: it has a name, and if it has an array, the array
exists. -/
structure Storable (p : Parameter) (pool : Pool) : Prop where
  named : Record.isName p.name = true
  existing : ∀ a c, p.array = some a → pool.items? a = some c → c.body.Existing

/-- The bytes of a parameter that was saved: a mark alone, or a mark and a record. -/
theorem save_cases {p : Parameter} {pool : Pool} {saved : List UInt8}
    (h : p.save pool = .ok saved) :
    saved = [version, 0] ∨ ∃ a c record, p.array = some a ∧ pool.items? a = some c ∧
      Record.writeBody p.name c.body = .ok record ∧ saved = version :: 1 :: record := by
  rw [save] at h
  rcases harray : p.array with _ | a
  · rw [harray] at h
    exact Or.inl (Except.ok.inj h).symm
  · rcases hc : pool.items? a with _ | c
    · simp only [harray, hc] at h
      cases h
    · simp only [harray, hc] at h
      obtain ⟨record, hrecord, hsaved⟩ := exists_of_bind_eq_ok h
      exact Or.inr ⟨a, c, record, rfl, hc, hrecord, (Except.ok.inj hsaved).symm⟩

theorem load_nothing {m : ManagerId} {q : Parameter} {h : Host} :
    (load m).runFrom ([], q, h) = (.error .parameterStreamEnd, [], q, h) :=
  rfl

theorem load_version {m : ManagerId} {q : Parameter} {h : Host} :
    (load m).runFrom ([version], q, h) = (.error .parameterStreamEnd, [], q, h) := by
  rw [load, runFrom_bind_of_ok (runFrom_readByte _ version _), if_neg (not_not_intro rfl)]
  rfl

/-- Behind the mark of an array, the end of the stream is reported by the reader of records. -/
theorem load_cut_record {m : ManagerId} {q : Parameter} {h : Host} {cut : Stream} {fault : Fault}
    (hread : Record.readContents.runFrom cut = (.error fault, [])) :
    (load m).runFrom (version :: 1 :: cut, q, h) = (.error fault, [], q, h) := by
  have hrecord : (Step.first Record.readContents : Step (Stream × Parameter × Host) _).runFrom
      (cut, q, h) = (.error fault, [], q, h) := by
    rw [runFrom_first, hread]
  rw [load, runFrom_bind_of_ok (runFrom_readByte _ version _), if_neg (not_not_intro rfl),
    runFrom_bind_of_ok (runFrom_readByte _ 1 _), if_neg (by decide), runFrom_bind_of_error hrecord]

theorem load_endsEarly {p : Parameter} {pool : Pool} {saved : List UInt8} (m : ManagerId)
    (hp : p.Storable pool) (hsaved : p.save pool = .ok saved) : EndsEarly (load m) saved := by
  intro cut hcut q h
  obtain ⟨others, rfl⟩ : ∃ others, saved = version :: others := by
    rcases save_cases hsaved with rfl | ⟨a, c, record, -, -, -, rfl⟩
    · exact ⟨_, rfl⟩
    · exact ⟨_, rfl⟩
  rcases hcut.cons with rfl | ⟨behind, rfl, hbehind⟩
  · exact ⟨.parameterStreamEnd, rfl, load_nothing⟩
  rcases save_cases hsaved with hmark | ⟨a, c, record, ha, hc, hrecord, hmark⟩
  · obtain rfl := List.tail_eq_of_cons_eq hmark
    rcases hbehind.cons with rfl | ⟨beyond, -, hbeyond⟩
    · exact ⟨.parameterStreamEnd, rfl, load_version⟩
    · exact absurd hbeyond (not_cutFrom_nil beyond)
  · obtain rfl := List.tail_eq_of_cons_eq hmark
    rcases hbehind.cons with rfl | ⟨beyond, rfl, hbeyond⟩
    · exact ⟨.parameterStreamEnd, rfl, load_version⟩
    · have hneeds : Record.readContents.Needs record :=
        Record.needs_record hp.named (hp.existing a c ha hc) c.length_body hrecord
      obtain ⟨fault, hend, hread⟩ := hneeds beyond hbeyond
      exact ⟨fault, hend, load_cut_record hread⟩

end Parameter

namespace Embedding

theorem load_endsEarly {e : Embedding} {pool : Pool} {saved : List UInt8} (m : ManagerId)
    (he : e.weight.Storable pool) (hsaved : e.save pool = .ok saved) :
    EndsEarly (load m) saved := by
  intro cut hcut target h
  obtain ⟨weight, hweight, hall⟩ := exists_of_bind_eq_ok hsaved
  obtain rfl : Parameter.version :: weight = saved := Except.ok.inj hall
  rcases hcut.cons with rfl | ⟨behind, rfl, hbehind⟩
  · exact ⟨.embeddingStreamEnd, rfl, rfl⟩
  · obtain ⟨fault, hend, hload⟩ :=
      Parameter.load_endsEarly m he hweight behind hbehind target.weight h
    refine ⟨fault, hend, ?_⟩
    have hversion : (Step.first (Parameter.readByte .embeddingStreamEnd) :
        Step (Stream × Embedding × Host) UInt8).runFrom
          (Parameter.version :: behind, target, h) = (.ok Parameter.version, behind, target, h) :=
      rfl
    rw [load, runFrom_bind_of_ok hversion, if_neg (not_not_intro rfl), runFrom_within, hload]

end Embedding

/-- Every stream that was cut off is refused because it ended, wherever the cut fell: a record of an
array of any rank under any name, a parameter that was saved with or without an array, and an
embedding.  Whatever it was to be loaded into stays as it is, and so does the host.  The items may
be truth values, integers or floats, long floats among them. -/
theorem cut_streams_refused :
    (∀ (name : Value) (a : Strided) (record : Stream), Record.isName name = true →
      (Record.Body.ofStrided a).Existing → Record.writeArray name a = .ok record →
      Record.readContents.Needs record) ∧
    (∀ (p : Parameter) (pool : Pool) (saved : Stream) (m : ManagerId), p.Storable pool →
      p.save pool = .ok saved → EndsEarly (Parameter.load m) saved) ∧
    (∀ (e : Embedding) (pool : Pool) (saved : Stream) (m : ManagerId), e.weight.Storable pool →
      e.save pool = .ok saved → EndsEarly (Embedding.load m) saved) := by
  refine ⟨?_, ?_, ?_⟩
  · intro name a record hname ha hrecord
    exact Record.needs_record hname ha a.length_bytes hrecord
  · exact fun p pool saved m hp hsaved => Parameter.load_endsEarly m hp hsaved
  · exact fun e pool saved m he hsaved => Embedding.load_endsEarly m he hsaved

/-- An embedding of two items with a weight of zeros, on a host with one manager. -/
def trialEmbedding : Embedding × Host :=
  let items : Value := .list [.text "a", .text "b"]
  let e := (EmbeddingConfig.build ⟨items, .int 2, .bool true, .text "float32"⟩ "trial").toOption
  ((Embedding.setUp ⟨0⟩ (.text "zeros")).runFrom (e.getD default, Parameter.trialHost)).2

/-- What was saved of the embedding. -/
def savedTrial : Stream := (trialEmbedding.1.save trialEmbedding.2.pool).toOption.getD []

theorem save_trialEmbedding :
    trialEmbedding.1.save trialEmbedding.2.pool = .ok savedTrial := by
  have hsaved : (trialEmbedding.1.save trialEmbedding.2.pool).toOption.isSome = true := by
    decide +kernel
  rcases hsave : trialEmbedding.1.save trialEmbedding.2.pool with fault | saved
  · rw [hsave] at hsaved
    cases hsaved
  · rw [savedTrial, hsave]
    rfl

theorem storable_trialEmbedding : trialEmbedding.1.weight.Storable trialEmbedding.2.pool := by
  have harray : trialEmbedding.1.weight.array = some ⟨0⟩ := by decide +kernel
  have hcontents : trialEmbedding.2.pool.contents? ⟨0⟩ = some (.zeros .float32 [3, 2]) := by
    decide +kernel
  constructor
  · decide +kernel
  · intro a c ha hc
    obtain rfl : (⟨0⟩ : ArrayId) = a := Option.some.inj (harray.symm.trans ha)
    obtain rfl : Contents.tensor (.zeros .float32 [3, 2]) = c :=
      Option.some.inj ((Pool.contents?_eq_some.mp hcontents).symm.trans hc)
    exact ⟨.number .float32 (by decide), by decide⟩

theorem cut_streams_refused_trial :
    (∃ record, Record.square.write = .ok record ∧ Record.readContents.Needs record) ∧
    (∃ weight, trialEmbedding.1.weight.save trialEmbedding.2.pool = .ok weight ∧
      EndsEarly (Parameter.load ⟨0⟩) weight) ∧
    trialEmbedding.1.save trialEmbedding.2.pool = .ok savedTrial ∧
      EndsEarly (Embedding.load ⟨0⟩) savedTrial := by
  obtain ⟨hrecords, hparameters, hembeddings⟩ := cut_streams_refused
  obtain ⟨record, _, hrecorded⟩ := Record.writable_square.exists_recorded
  obtain ⟨weight, hweight, -⟩ := exists_of_bind_eq_ok save_trialEmbedding
  have hstorable := storable_trialEmbedding
  refine ⟨⟨record, hrecorded.written, ?_⟩, ⟨weight, hweight, ?_⟩, save_trialEmbedding, ?_⟩
  · have hsquare : (Record.Body.ofStrided Record.square.array).Existing :=
      ⟨Record.writable_square.numeric, Record.writable_square.addressable⟩
    exact hrecords (.text "w") Record.square.array record rfl hsquare hrecorded.written
  · exact hparameters _ _ _ _ hstorable hweight
  · exact hembeddings _ _ _ _ hstorable save_trialEmbedding

end DataParallel

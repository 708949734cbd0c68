import DataParallel.Proofs.Embedding.Lookup
import DataParallel.Proofs.Parameter.Reload
import DataParallel.Proofs.Record.Accepted
import DataParallel.Proofs.Store.Runs

/-!
# The weight of an embedding

A weight that is set up has a row for every item.  A weight that is loaded has the shape of the
record, whatever the embedding needs, so it fits only if the record does.  As long as the records
do, the weight and everything that a store keeps of it fit through every run, and every lookup of
rectangular items succeeds.
-/

namespace DataParallel

open Step

namespace Parameter

/-! ## Writing the array of a parameter -/

section Writing

variable {s : Shape} {q : Parameter} {h : Host} {m : ManagerId} {c : Contents}

/-- The array of a parameter, if there is one, is of a shape. -/
def Fitting (s : Shape) (x : Parameter × Host) : Prop :=
  ∀ a ∈ x.1.array, x.2.pool.Fitting s a

/-- What a write may change of a parameter is its array. -/
structure Wrote (s : Shape) (x y : Parameter × Host) : Prop where
  same : y.1 = { x.1 with array := y.1.array }
  sound : y.2.pool.Sound
  evolves : x.2.Evolves y.2
  fitting : Fitting s y

theorem Wrote.refl {x : Parameter × Host} (hsound : x.2.pool.Sound) (hx : Fitting s x) :
    Wrote s x x where
  same := rfl
  sound := hsound
  evolves := Pool.Evolves.refl _
  fitting := hx

theorem runFrom_create_closed (hclosed : ¬(h.pool.manager m).isOpen = true) :
    (adopt m c).runFrom (q, h) = (.error .managerClosed, q, h) := by
  have hcheck : (Pool.checkOpen m).runFrom h.pool = (.error .managerClosed, h.pool) := by
    simp only [Pool.checkOpen, runFrom_bind_of_ok (runFrom_get h.pool), hclosed]
    rfl
  have hcreate : (Pool.create m (.ok c)).runFrom h.pool = (.error .managerClosed, h.pool) := by
    rw [Pool.create, runFrom_bind_of_error hcheck]
  rw [adopt, runFrom_bind_of_error (runFrom_second_onPool hcreate)]

/-- The contents come into a new array, or the manager refuses and nothing is changed. -/
theorem adopt_cases (hsound : h.pool.Sound) {q' : Parameter} {h' : Host}
    (hrun : ((adopt m c).runFrom (q, h)).2 = (q', h')) :
    (q' = q ∧ h' = h) ∨ Renewed c q q' h h' := by
  by_cases hopen : (h.pool.manager m).isOpen = true
  · obtain ⟨q₁, h₁, hadopt, hrenewed⟩ := adopt_renews (q := q) (c := c) hsound hopen
    rw [hadopt] at hrun
    cases hrun
    exact Or.inr hrenewed
  · rw [runFrom_create_closed hopen] at hrun
    cases hrun
    exact Or.inl ⟨rfl, rfl⟩

theorem Wrote.of_renewed {q' : Parameter} {h' : Host} (hsound : h.pool.Sound) (hc : c.OfShape s)
    (hevolves : h.Evolves h') (hrenewed : Renewed c q q' h h') : Wrote s (q, h) (q', h') := by
  obtain ⟨b, rfl, -, hb⟩ := hrenewed
  refine ⟨rfl, hevolves.sound hsound, hevolves, ?_⟩
  intro a ha
  obtain rfl : b = a := Option.some.inj ha
  exact .of_items? hb hc

/-- A parameter without an array gets one of the contents, or the manager refuses. -/
theorem wrote_adopt (hsound : h.pool.Sound) (hc : c.OfShape s) (hnone : q.array = none) :
    Wrote s (q, h) ((adopt m c).runFrom (q, h)).2 := by
  have hevolves := along_adopt m c (q, h)
  rcases hrun : ((adopt m c).runFrom (q, h)).2 with ⟨q', h'⟩
  rw [hrun] at hevolves
  obtain ⟨rfl, rfl⟩ | hrenewed := adopt_cases hsound hrun
  · refine .refl hsound fun a ha => ?_
    rw [hnone] at ha
    cases ha
  · exact .of_renewed hsound hc hevolves hrenewed

/-- Contents of the shape are taken whatever the array was. -/
theorem wrote_accept (hsound : h.pool.Sound) (hc : c.OfShape s) (hq : Fitting s (q, h)) :
    Wrote s (q, h) ((accept m c).runFrom (q, h)).2 := by
  have hevolves := along_accept m c (q, h)
  rcases harray : q.array with _ | a
  · rw [accept_nothing harray]
    exact wrote_adopt hsound hc harray
  · rcases hold : h.pool.items? a with _ | old
    · rw [accept_closed harray hold]
      exact .refl hsound hq
    · by_cases hshape : old.shape = c.shape
      · obtain ⟨k, -, hrun, -⟩ := accept_same_shape (m := m) harray hold hsound hshape
        rw [hrun] at hevolves ⊢
        refine ⟨rfl, hevolves.sound hsound, hevolves, ?_⟩
        exact fun b hb => (hq b hb).evolves hsound hevolves
      · rw [accept_other_shape harray hold hshape]
        have hwrote := wrote_adopt (q := { q with array := none }) (m := m) hsound hc rfl
        exact ⟨hwrote.same, hwrote.sound, hwrote.evolves, hwrote.fitting⟩

end Writing

/-! ## Setting up and loading -/

section SettingUp

variable {q q' : Parameter} {h h' : Host} {m : ManagerId} {dtype : Value}

/-- A parameter that is not set up already gets a new array of what was asked for, or none. -/
theorem setUp_cases {shape : Value} (hsound : h.pool.Sound) (hscale : q.scale.isSequence = false)
    (hrun : ((setUp m shape dtype).runFrom (q, h)).2 = (q', h')) :
    q' = q ∨ q.array = none ∧ ∃ dims, ∃ t : Tensor, Strategy.dimensions shape = .ok dims ∧
      t.Asked (dims.map Int.toNat) dtype ∧ Renewed t q q' h h' := by
  rw [setUp, runFrom_bind_of_ok (runFrom_get _)] at hrun
  dsimp only at hrun
  split at hrun
  · cases hrun
    exact Or.inl rfl
  · next hunset =>
    have hnone : q.array = none := by
      rw [isSetUp] at hunset
      simpa using hunset
    rcases hdraws : (Strategy.initialFor shape q.strategy q.scale dtype).runFrom h.draws
      with ⟨fault | t, draws⟩
    · have hfault : (Step.second (Host.onDraws (Strategy.initialFor shape q.strategy q.scale
          dtype)) : Step (Parameter × Host) Tensor).runFrom (q, h) =
            (.error fault, q, { h with draws := draws }) := by
        rw [runFrom_second, Host.onDraws, runFrom_within, hdraws]
      rw [runFrom_bind_of_error hfault] at hrun
      cases hrun
      exact Or.inl rfl
    · have hok : (Step.second (Host.onDraws (Strategy.initialFor shape q.strategy q.scale
          dtype)) : Step (Parameter × Host) Tensor).runFrom (q, h) =
            (.ok t, q, { h with draws := draws }) := by
        rw [runFrom_second, Host.onDraws, runFrom_within, hdraws]
      rw [runFrom_bind_of_ok hok] at hrun
      obtain ⟨dims, hdims, ht⟩ :=
        (Strategy.keeps_initialFor hscale h.draws trivial).2 t (congrArg Prod.fst hdraws)
      obtain ⟨rfl, -⟩ | hrenewed := adopt_cases (h := { h with draws := draws }) hsound hrun
      · exact Or.inl rfl
      · exact Or.inr ⟨hnone, dims, t, hdims, ht, hrenewed⟩

theorem wrote_setUp {s : Shape} (hsound : h.pool.Sound) (hq : Fitting s (q, h))
    (hscale : q.scale.isSequence = false) :
    Wrote s (q, h) ((setUp m (.tuple s.values) dtype).runFrom (q, h)).2 := by
  have hevolves := along_setUp m (.tuple s.values) dtype (q, h)
  rcases hrun : ((setUp m (.tuple s.values) dtype).runFrom (q, h)).2 with ⟨q', h'⟩
  rw [hrun] at hevolves
  obtain rfl | ⟨-, dims, t, hdims, ht, hrenewed⟩ := setUp_cases hsound hscale hrun
  · exact ⟨rfl, hevolves.sound hsound, hevolves, fun a ha => (hq a ha).evolves hsound hevolves⟩
  · obtain rfl := Except.ok.inj ((Strategy.dimensions_values s).symm.trans hdims)
    rw [Shape.toNat_wholes] at ht
    exact .of_renewed hsound ht.toOfShape.contents hevolves hrenewed

end SettingUp

/-- The contents that a stream brings to a parameter of a name, if the parameter takes any from
it. -/
def incoming (bs : Stream) (name : Value) : Option Contents :=
  match bs with
  | v :: mark :: body =>
    if v = version ∧ mark ≠ 0 then
      match Record.readContents.runFrom body with
      | (.ok (found, c), _) => if found.same name then some c else none
      | (.error _, _) => none
    else none
  | _ => none

/-- Without such contents nothing but the stream is changed, and with them they are taken. -/
theorem load_incoming (m : ManagerId) (bs : Stream) (q : Parameter) (h : Host) :
    ((load m).runFrom (bs, q, h)).2.2 =
      match incoming bs q.name with
      | none => (q, h)
      | some c => ((accept m c).runFrom (q, h)).2 := by
  rcases bs with _ | ⟨v, bs⟩
  · rfl
  rw [load, runFrom_bind_of_ok (runFrom_readByte _ v bs)]
  by_cases hv : v = version
  · rw [if_neg (not_not_intro hv)]
    rcases bs with _ | ⟨mark, body⟩
    · rfl
    rw [runFrom_bind_of_ok (runFrom_readByte _ mark body)]
    by_cases hmark : mark = 0
    · simp [incoming, hmark]
    · rw [if_neg hmark]
      rcases hread : Record.readContents.runFrom body with ⟨fault | ⟨found, c⟩, rest⟩
      · have hrecord : (Step.first Record.readContents : Step (Stream × Parameter × Host) _).runFrom
            (body, q, h) = (.error fault, rest, q, h) := by
          rw [runFrom_first, hread]
        rw [runFrom_bind_of_error hrecord]
        simp [incoming, hv, hmark, hread]
      · have hrecord : (Step.first Record.readContents : Step (Stream × Parameter × Host) _).runFrom
            (body, q, h) = (.ok (found, c), rest, q, h) := by
          rw [runFrom_first, hread]
        rw [runFrom_bind_of_ok hrecord, runFrom_bind_of_ok (runFrom_get _)]
        by_cases hname : found.same q.name = true
        · simp [incoming, hv, hmark, hread, hname]
        · simp [incoming, hv, hmark, hread, hname]
  · rw [if_pos hv, runFrom_bind]
    rcases bs with _ | ⟨mark, body⟩
    · rfl
    · simp [incoming, hv]

/-- Such contents were read from a record of this name. -/
theorem exists_read_of_incoming {bs : Stream} {name : Value} {c : Contents}
    (h : incoming bs name = some c) :
    ∃ mark body found rest, bs = version :: mark :: body ∧ mark ≠ 0 ∧
      Record.readContents.runFrom body = (.ok (found, c), rest) ∧ found.same name = true := by
  rcases bs with _ | ⟨v, _ | ⟨mark, body⟩⟩
  · cases h
  · cases h
  · rw [incoming] at h
    split at h
    · next hmark =>
      obtain ⟨rfl, hmark⟩ := hmark
      split at h
      · next found u rest hread =>
        split at h
        · next hname =>
          obtain rfl := Option.some.inj h
          exact ⟨mark, body, found, rest, rfl, hmark, hread, hname⟩
        · cases h
      · cases h
    · cases h

/-- The contents are taken once they are read. -/
theorem load_of_incoming {m : ManagerId} {bs : Stream} {q : Parameter} {h : Host} {c : Contents}
    (hc : incoming bs q.name = some c) :
    ∃ rest, (load m).runFrom (bs, q, h) =
      (Step.second (accept m c) : Step (Stream × Parameter × Host) Unit).runFrom (rest, q, h) := by
  obtain ⟨mark, body, found, rest, rfl, hmark, hread, hname⟩ := exists_read_of_incoming hc
  have hrecord : (Step.first Record.readContents : Step (Stream × Parameter × Host) _).runFrom
      (body, q, h) = (.ok (found, c), rest, q, h) := by
    rw [runFrom_first, hread]
  refine ⟨rest, ?_⟩
  rw [load, runFrom_bind_of_ok (runFrom_readByte _ version _), if_neg (not_not_intro rfl),
    runFrom_bind_of_ok (runFrom_readByte _ mark body), if_neg hmark, runFrom_bind_of_ok hrecord,
    runFrom_bind_of_ok (runFrom_get _)]
  simp only [hname, Bool.not_true, Bool.false_eq_true, ↓reduceIte]

end Parameter

/-! ## Contents of records -/

/-- The items of blocks have a size if the blocks have one. -/
theorem ItemType.innermost_size_pos {t : ItemType} (h : 0 < t.size) : 0 < t.innermost.1.size := by
  induction t with
  | number d => exact h
  | stored code size readable => exact h
  | block item shape ih =>
    apply ih
    rw [ItemType.size] at h
    exact Nat.pos_of_mul_pos_right h

namespace Record

/-- Contents that were put together were given a shape whose items can be addressed. -/
theorem ofShape_assemble {item : ItemType} {dims : List Value} {payload : List UInt8} {c : Contents}
    (h : assemble item dims payload = .ok c) : c.OfShape c.shape := by
  rw [assemble] at h
  split at h
  · cases h
  next hguard =>
  have hpos : 0 < item.innermost.1.size := by
    apply ItemType.innermost_size_pos
    apply Nat.pos_of_ne_zero
    intro hzero
    simp [hzero] at hguard
  dsimp only [pure_bind] at h
  split at h
  · split at h
    · cases h
    · next dtype _ flat hflat =>
      obtain ⟨ns, -, h⟩ := exists_of_bind_eq_ok h
      obtain ⟨t, ht, h⟩ := exists_of_bind_eq_ok h
      obtain ⟨s, hs, ht⟩ := exists_of_bind_eq_ok ht
      obtain ⟨hresolve, haddressable⟩ := reshaped_eq_ok hs
      obtain rfl := Except.ok.inj h
      obtain rfl := Except.ok.inj ht
      have hshape : (flat.withShape s).shape = s :=
        Tensor.shape_withShape (Shape.size_of_resolve? hresolve).symm
      have hfits : (flat.withShape s).OfShape s := by
        refine ⟨hshape, ?_⟩
        rw [Tensor.dtype_withShape]
        exact haddressable
      rw [Contents.shape_tensor, hshape]
      exact hfits.contents
  · obtain ⟨ns, -, h⟩ := exists_of_bind_eq_ok h
    obtain ⟨s, hs, h⟩ := exists_of_bind_eq_ok h
    split at h
    · obtain rfl := Except.ok.inj h
      exact ⟨rfl, hpos, (reshaped_eq_ok hs).2⟩
    · cases h

theorem ofShape_read {body rest : Stream} {name : Value} {c : Contents}
    (hread : readContents.runFrom body = (.ok (name, c), rest)) : c.OfShape c.shape := by
  obtain ⟨f, -, -, hstores⟩ := readContents_eq_ok.mp hread
  exact ofShape_assemble hstores.contents

end Record

/-! ## Setting up an embedding -/

namespace Embedding

/-- The scale that is given, or the usual one. -/
theorem isSequence_chosen {scale usual : Value} (hscale : scale.isSequence = false)
    (husual : usual.isSequence = false) :
    (match scale with
      | .null => usual
      | v => v).isSequence = false := by
  split
  · exact husual
  · exact hscale

/-- An embedding is set up by setting up its weight, with some strategy and some scale. -/
theorem exists_runFrom_setUp (m : ManagerId) (strategy : Value) {scale : Value} {e : Embedding}
    (h : Host) (hscale : scale.isSequence = false) (husual : e.weight.scale.isSequence = false) :
    ∃ chosenStrategy chosenScale : Value, chosenScale.isSequence = false ∧
      (setUp m strategy scale).runFrom (e, h) =
        let r := (Parameter.setUp m (.tuple [.int e.rowCount, e.size])
          (.text e.dtype.code)).runFrom
            ({ e.weight with strategy := chosenStrategy, scale := chosenScale }, h)
        (r.1, { e with weight := r.2.1 }, r.2.2) := by
  let chosenStrategy : Value := match strategy with
    | .null => e.weight.strategy
    | v => v
  refine ⟨chosenStrategy, _, isSequence_chosen hscale husual, ?_⟩
  rw [setUp, runFrom_bind_of_ok (runFrom_get _)]
  dsimp only
  rw [runFrom_bind_of_ok (runFrom_modify _ _)]
  rfl

end Embedding

/-! ## Loading an embedding -/

namespace Embedding

/-- Behind its version comes the saved weight. -/
theorem load_version (m : ManagerId) (bs : Stream) (e : Embedding) (h : Host) :
    (load m).runFrom (Parameter.version :: bs, e, h) =
      let r := (Parameter.load m).runFrom (bs, e.weight, h)
      (r.1, r.2.1, { e with weight := r.2.2.1 }, r.2.2.2) := by
  have hbyte : (Step.first (Parameter.readByte .embeddingStreamEnd) :
      Step (Stream × Embedding × Host) UInt8).runFrom (Parameter.version :: bs, e, h) =
        (.ok Parameter.version, bs, e, h) := rfl
  rw [load, runFrom_bind_of_ok hbyte, if_neg (not_not_intro rfl), runFrom_within]

/-- The contents that a stream brings to an embedding, if its weight takes any from it. -/
def incoming (e : Embedding) : Stream → Option Contents
  | [] => none
  | v :: bs => if v = Parameter.version then Parameter.incoming bs e.weight.name else none

variable {e : Embedding} {h : Host}

/-- Without such contents nothing but the stream is changed, and with them the weight takes them. -/
theorem load_incoming (m : ManagerId) (bs : Stream) :
    ((load m).runFrom (bs, e, h)).2.2 =
      match e.incoming bs with
      | none => (e, h)
      | some c =>
        let r := ((Parameter.accept m c).runFrom (e.weight, h)).2
        ({ e with weight := r.1 }, r.2) := by
  rcases bs with _ | ⟨v, bs⟩
  · rfl
  have hbyte : (Step.first (Parameter.readByte .embeddingStreamEnd) :
      Step (Stream × Embedding × Host) UInt8).runFrom (v :: bs, e, h) = (.ok v, bs, e, h) := rfl
  rw [load, runFrom_bind_of_ok hbyte, incoming]
  by_cases hv : v = Parameter.version
  · have hload := Parameter.load_incoming m bs e.weight h
    rw [if_neg (not_not_intro hv), if_pos hv, runFrom_within]
    refine (congrArg (fun r : Parameter × Host => (({ e with weight := r.1 } : Embedding), r.2))
      hload).trans ?_
    rcases Parameter.incoming bs e.weight.name with _ | c
    · rfl
    · rfl
  · rw [if_pos hv, if_neg hv, runFrom_bind]
    rfl

/-- So many items as a stream brings can be addressed in their shape. -/
theorem ofShape_incoming {bs : Stream} {c : Contents} (hc : e.incoming bs = some c) :
    c.OfShape c.shape := by
  rcases bs with _ | ⟨v, bs⟩
  · cases hc
  · rw [incoming] at hc
    split at hc
    · obtain ⟨-, body, found, rest, -, -, hread, -⟩ := Parameter.exists_read_of_incoming hc
      exact Record.ofShape_read hread
    · cases hc

/-! ## The shape that a weight needs -/

theorem parameterShape_weight (e : Embedding) :
    e.parameterShape (.text "embedding") = .ok [.int e.rowCount, e.size] := by
  rw [parameterShape, if_pos (by decide)]

theorem values_injective {s r : Shape} (h : s.values = r.values) : s = r :=
  List.map_injective_iff.mpr (fun _ _ h => Int.ofNat.inj (Value.int.inj h)) h

/-- The shape of the weight is a row for every item. -/
theorem Sized.parameterShape_eq_ok {n : Nat} (he : e.Sized n) {s : Shape} :
    e.parameterShape (.text "embedding") = .ok s.values ↔ s = [e.rowCount, n] := by
  rw [parameterShape_weight, he.size]
  constructor
  · intro h
    have hvalues : Shape.values [e.rowCount, n] = s.values := Except.ok.inj h
    exact (values_injective hvalues).symm
  · rintro rfl
    rfl

end Embedding

end DataParallel

import DataParallel.Proofs.Embedding.Weight

/-!
# Checkpoints of an embedding

Embeddings of the same settings ask for weights of one shape and one element type, whichever
strategies fill them, and whatever is written into an array leaves it both.  So what was saved of
one embedding is loaded into another one as it is: it comes into the array that is there without a
conversion, or into a new one, and what is saved of the target afterwards are the same bytes.
-/

namespace DataParallel

open Step

theorem Tensor.Asked.congr {s : Shape} {dtype : Value} {t u : Tensor} (h : t.Asked s dtype)
    (hshape : u.shape = t.shape) (hdtype : u.dtype = t.dtype) : u.Asked s dtype where
  toOfShape := h.toOfShape.congr hshape hdtype
  dtype := hdtype ▸ h.dtype

namespace Parameter

/-- What is saved of a parameter are its name and its contents. -/
theorem save_congr {p q : Parameter} {pool pool' : Pool} {a b : ArrayId} {t : Tensor}
    (hname : q.name = p.name) (hp : p.array = some a) (hq : q.array = some b)
    (ha : pool.contents? a = some t) (hb : pool'.contents? b = some t) :
    q.save pool' = p.save pool := by
  simp only [save, hp, hq, Pool.contents?_eq_some.mp ha, Pool.contents?_eq_some.mp hb, hname]

/-- Contents that are like those of the array, if there is one, are taken without a conversion. -/
theorem Reloaded.exactly {x : Tensor} {q q' : Parameter} {h h' : Host}
    (hreloaded : Reloaded x q q' h h')
    (hlike : ∀ a ∈ q.array, ∃ old, h.pool.contents? a = some old ∧ old.shape = x.shape ∧
      old.dtype = x.dtype) :
    ∃ b, q' = { q with array := some b } ∧ h'.pool.contents? b = some x ∧
      (q.isSetUp = true → q' = q) := by
  rcases harray : q.array with _ | a
  · have hrenewed : Renewed x q q' h h' := by
      apply hreloaded.renewed
      intro a old ha
      rw [harray] at ha
      cases ha
    obtain ⟨b, rfl, -, hb⟩ := hrenewed
    refine ⟨b, rfl, Pool.contents?_eq_some.mpr hb, fun hset => ?_⟩
    rw [Parameter.isSetUp, harray] at hset
    cases hset
  · obtain ⟨old, hold, hshape, hdtype⟩ := hlike a harray
    obtain ⟨rfl, hcontents⟩ := hreloaded.numbers harray hold hshape
    rw [hdtype, Tensor.cast_self] at hcontents
    exact ⟨a, by rw [← harray], hcontents, fun _ => rfl⟩

end Parameter

/-- Embeddings of the same settings differ in their weights only. -/
theorem EmbeddingConfig.build_again {c : EmbeddingConfig} {id id' : String} {e e' : Embedding}
    (h : c.build id = .ok e) (h' : c.build id' = .ok e') : e' = { e with weight := e'.weight } := by
  obtain ⟨dtype, hdtype, h⟩ := exists_of_bind_eq_ok h
  obtain ⟨items, hitems, h⟩ := exists_of_bind_eq_ok h
  obtain ⟨rows, hrows, h⟩ := exists_of_bind_eq_ok h
  rw [build, hdtype, ok_bind, hitems, ok_bind, hrows, ok_bind] at h'
  rw [← Except.ok.inj h, ← Except.ok.inj h']

namespace Embedding

variable {c : EmbeddingConfig} {e e' t : Embedding} {h h' k : Host} {m : ManagerId} {x y : Tensor}

/-! ## What an embedding asks for -/

/-- Contents of the shape and the element type that an embedding asks for. -/
def Asks (e : Embedding) (x : Tensor) : Prop :=
  ∃ dims, Strategy.dimensions (.tuple [.int e.rowCount, e.size]) = .ok dims ∧
    x.Asked (dims.map Int.toNat) (.text e.dtype.code)

theorem Asks.congr (hx : e.Asks x) (hshape : y.shape = x.shape) (hdtype : y.dtype = x.dtype) :
    e.Asks y := by
  obtain ⟨dims, hdims, hasked⟩ := hx
  exact ⟨dims, hdims, hasked.congr hshape hdtype⟩

theorem Asks.alike (hx : e.Asks x) (hy : e.Asks y) : x.shape = y.shape ∧ x.dtype = y.dtype := by
  obtain ⟨dims, hdims, hx⟩ := hx
  obtain ⟨dims', hdims', hy⟩ := hy
  obtain rfl := Except.ok.inj (hdims.symm.trans hdims')
  exact ⟨hx.shape.trans hy.shape.symm, Except.ok.inj (hx.dtype.symm.trans hy.dtype)⟩

/-- A weight has rows and columns, even if it has no row. -/
theorem Asks.shape_ne (hx : e.Asks x) : x.shape ≠ [] := by
  obtain ⟨dims, hdims, hx⟩ := hx
  obtain ⟨sizes, hsizes, hdims⟩ := exists_of_bind_eq_ok hdims
  obtain rfl := Except.ok.inj hsizes
  rw [List.mapM_cons] at hdims
  obtain ⟨rows, -, hdims⟩ := exists_of_bind_eq_ok hdims
  obtain ⟨others, -, hdims⟩ := exists_of_bind_eq_ok hdims
  rw [hx.shape, ← Except.ok.inj hdims]
  exact List.cons_ne_nil _ _

/-- Truth values, integers and floats can be recorded under the name of the weight. -/
theorem Asks.recordable (hx : e.Asks x) (hnumeric : e.dtype.Numeric) :
    Record.Recordable "embedding" x := by
  obtain ⟨dims, -, hx⟩ := hx
  have hdtype : e.dtype = .number x.dtype := by
    obtain ⟨item, hitem, hnumber⟩ := exists_of_bind_eq_ok hx.dtype
    obtain rfl := Except.ok.inj (hitem.symm.trans hnumeric.ofName_code)
    split at hnumber
    · next d hd => rw [hd, Except.ok.inj hnumber]
    · cases hnumber
  rw [hdtype] at hnumeric
  refine .of_short ?_ (hx.shape ▸ hx.addressable) (by decide)
  cases hnumeric with
  | number d hordered => exact hordered

/-! ## The life of an embedding -/

/-- What becomes of an embedding and its host: it is built at some time and set up in some way,
whether or not that succeeds, and in between anything may happen to the arrays. -/
inductive Life (c : EmbeddingConfig) : Embedding → Host → Prop where
  | built {id : String} {e : Embedding} {h : Host} (hbuild : c.build id = .ok e)
    (hreached : Host.empty.Evolves h) : Life c e h
  | setUp {e e' : Embedding} {h h' : Host} (hlife : Life c e h) (m : ManagerId)
    (strategy scale : Value) (hscale : scale.isSequence = false)
    (hrun : ((Embedding.setUp m strategy scale).runFrom (e, h)).2 = (e', h')) : Life c e' h'
  | passed {e : Embedding} {h h' : Host} (hlife : Life c e h) (hevolves : h.Evolves h') :
    Life c e h'

/-- What every such life keeps: the embedding is as it was built but for its weight, whose array
holds what the embedding asks for as long as it is open. -/
structure Regular (c : EmbeddingConfig) (e : Embedding) (h : Host) : Prop where
  built : ∃ id e₀, c.build id = .ok e₀ ∧ e = { e₀ with weight := e.weight }
  name : e.weight.name = .text "embedding"
  scale : e.weight.scale.isSequence = false
  reached : Host.empty.Evolves h
  has : ∀ a ∈ e.weight.array, h.pool.Has a
  asks : ∀ a ∈ e.weight.array, ∀ x, h.pool.contents? a = some x → e.Asks x

theorem Regular.sound (he : Regular c e h) : h.pool.Sound := Host.sound_of_reached he.reached

theorem regular_build {id : String} (hbuild : c.build id = .ok e)
    (hreached : Host.empty.Evolves h) : Regular c e h := by
  have hweight := EmbeddingConfig.weight_build hbuild
  refine ⟨⟨id, e, hbuild, rfl⟩, ?_, ?_, hreached, ?_, ?_⟩
  · rw [hweight]
    rfl
  · rw [hweight]
    rfl
  · intro a ha
    rw [hweight] at ha
    cases ha
  · intro a ha
    rw [hweight] at ha
    cases ha

theorem Regular.passed (he : Regular c e h) (hevolves : h.Evolves h') : Regular c e h' where
  built := he.built
  name := he.name
  scale := he.scale
  reached := he.reached.trans hevolves
  has a ha := hevolves.has (he.has a ha)
  asks := by
    intro a ha x hx
    obtain ⟨old, hold, hdtype, hshape⟩ := hevolves.exists_contents? he.sound (he.has a ha) hx
    exact (he.asks a ha old hold).congr hshape.symm hdtype.symm

/-- A weight of the same name with a single scale, whose array is the old one or holds what the
embedding asks for. -/
theorem Regular.reweigh (he : Regular c e h) {p : Parameter} (hname : p.name = e.weight.name)
    (hscale : p.scale.isSequence = false)
    (harray : ∀ a ∈ p.array, a ∈ e.weight.array ∨ ∃ x, h.pool.contents? a = some x ∧ e.Asks x) :
    Regular c { e with weight := p } h where
  built := by
    obtain ⟨id, e₀, hbuild, hsame⟩ := he.built
    exact ⟨id, e₀, hbuild, by rw [hsame]⟩
  name := hname.trans he.name
  scale := hscale
  reached := he.reached
  has := by
    intro a ha
    obtain hold | ⟨x, hx, -⟩ := harray a ha
    · exact he.has a hold
    · exact Pool.has_of_contents? hx
  asks := by
    intro a ha y hy
    obtain hold | ⟨x, hx, hasks⟩ := harray a ha
    · exact he.asks a hold y hy
    · obtain rfl := Option.some.inj (hx.symm.trans hy)
      exact hasks

theorem Regular.setUp (he : Regular c e h) {strategy scale : Value}
    (hscale : scale.isSequence = false)
    (hrun : ((Embedding.setUp m strategy scale).runFrom (e, h)).2 = (e', h')) :
    Regular c e' h' := by
  obtain ⟨chosenStrategy, chosenScale, hchosen, hsetUp⟩ :=
    exists_runFrom_setUp m strategy h hscale he.scale
  rw [hsetUp] at hrun
  rcases hweight : ((Parameter.setUp m (.tuple [.int e.rowCount, e.size])
    (.text e.dtype.code)).runFrom
      ({ e.weight with strategy := chosenStrategy, scale := chosenScale }, h)).2 with ⟨q, k⟩
  have hevolves : h.Evolves k := by
    have halong := Parameter.along_setUp m (.tuple [.int e.rowCount, e.size])
      (.text e.dtype.code) ({ e.weight with strategy := chosenStrategy, scale := chosenScale }, h)
    rwa [hweight] at halong
  dsimp only at hrun
  rw [hweight] at hrun
  obtain ⟨rfl, rfl⟩ := Prod.mk.inj hrun
  obtain rfl | ⟨-, dims, x, hdims, hasked, b, rfl, -, hb⟩ :=
    Parameter.setUp_cases he.sound hchosen hweight
  · exact (he.passed hevolves).reweigh rfl hchosen fun a ha => Or.inl ha
  · refine (he.passed hevolves).reweigh rfl hchosen fun a ha => Or.inr ?_
    obtain rfl : b = a := Option.some.inj ha
    exact ⟨x, Pool.contents?_eq_some.mpr hb, dims, hdims, hasked⟩

theorem Life.regular (hlife : Life c e h) : Regular c e h := by
  induction hlife with
  | built hbuild hreached => exact regular_build hbuild hreached
  | setUp _ m strategy scale hscale hrun ih => exact ih.setUp hscale hrun
  | passed _ hevolves ih => exact ih.passed hevolves

/-- Embeddings of the same settings ask for the same. -/
theorem Regular.asks_iff (he : Regular c e h) (ht : Regular c t k) : t.Asks x ↔ e.Asks x := by
  obtain ⟨id, e₀, hbuild, he⟩ := he.built
  obtain ⟨id', t₀, hbuild', ht⟩ := ht.built
  rw [he, ht, EmbeddingConfig.build_again hbuild hbuild']
  rfl

/-! ## Checkpoints -/

/-- What loading what was saved of `e` makes of `t`, on hosts of their own. -/
structure Restored (e : Embedding) (h : Host) (t t' : Embedding) (k k' : Host) : Prop where
  /-- The weight holds the same elements in the same shape and element type. -/
  holds : ∀ a ∈ e.weight.array, ∃ x, h.pool.contents? a = some x ∧
    ∃ b ∈ t'.weight.array, k'.pool.contents? b = some x
  /-- Nothing of the target but the array of its weight is new. -/
  same : t' = { t with weight.array := t'.weight.array }
  /-- An array that was there is the array that is there. -/
  kept : t.weight.isSetUp = true → t' = t
  /-- An embedding without an array changes nothing. -/
  unset : e.weight.isSetUp = false → t' = t ∧ k' = k
  /-- The same bytes are saved of the target, if it does not hold more than the source. -/
  saved : (t.weight.isSetUp = true → e.weight.isSetUp = true) → t'.save k'.pool = e.save h.pool

theorem restored_of_unset (harray : e.weight.array = none) : Restored e h t t k k where
  holds := by
    intro a ha
    rw [harray] at ha
    cases ha
  same := rfl
  kept _ := rfl
  unset _ := ⟨rfl, rfl⟩
  saved := by
    intro hboth
    have hnone : t.weight.array = none := by
      by_contra hsome
      have hset := hboth (Option.isSome_iff_ne_none.mpr hsome)
      rw [Parameter.isSetUp, harray] at hset
      cases hset
    rw [save, save, Parameter.save_unset harray, Parameter.save_unset hnone]

/-- Both embeddings ask for the same, so the contents are taken as they are. -/
theorem Regular.restored_of_reloaded (he : Regular c e h) (ht : Regular c t k)
    (htarget : ∀ a ∈ t.weight.array, (k.pool.contents? a).isSome) {a : ArrayId}
    (harray : e.weight.array = some a) (hx : h.pool.contents? a = some x) {q : Parameter}
    {k' : Host} (hreloaded : Parameter.Reloaded x t.weight q k k') :
    Restored e h t { t with weight := q } k k' := by
  have hlike : ∀ b ∈ t.weight.array, ∃ old, k.pool.contents? b = some old ∧
      old.shape = x.shape ∧ old.dtype = x.dtype := by
    intro b hb
    obtain ⟨old, hold⟩ := Option.isSome_iff_exists.mp (htarget b hb)
    have hasks : e.Asks old := (he.asks_iff ht).mp (ht.asks b hb old hold)
    exact ⟨old, hold, hasks.alike (he.asks a harray x hx)⟩
  obtain ⟨b, rfl, hb, hkept⟩ := hreloaded.exactly hlike
  constructor
  · intro a' ha'
    obtain rfl : a = a' := Option.some.inj (harray.symm.trans ha')
    exact ⟨x, hx, b, rfl, hb⟩
  · rfl
  · intro hset
    rw [hkept hset]
  · intro hunset
    rw [Parameter.isSetUp, harray] at hunset
    cases hunset
  · intro _
    have hname : ({ t.weight with array := some b } : Parameter).name = e.weight.name :=
      ht.name.trans he.name.symm
    rw [save, save, Parameter.save_congr hname harray rfl hx hb]

theorem load_of_weight {pool : Pool} {saved : Stream} {q : Parameter}
    (hsaved : e.weight.save pool = .ok saved)
    (hload : ∀ rest, (Parameter.load m).runFrom (saved ++ rest, t.weight, k) =
      (.ok (), rest, q, h')) :
    e.save pool = .ok (Parameter.version :: saved) ∧
      ∀ rest, (load m).runFrom (Parameter.version :: saved ++ rest, t, k) =
        (.ok (), rest, { t with weight := q }, h') := by
  constructor
  · rw [save, hsaved]
    rfl
  · intro rest
    rw [List.cons_append, load_version, hload]

/-- What is saved of an embedding of truth values, integers or floats is loaded into every embedding
of the same settings, whatever is behind it on the stream.  The target holds what the source held,
in the array that it had or in a new one, and the same bytes are saved of it.  The floats are of
half, single and double precision: long ones are only carried, so no weight is set up with them. -/
theorem checkpoint_stable (he : Life c e h) (ht : Life c t k) (hnumeric : e.dtype.Numeric)
    (hsource : ∀ a ∈ e.weight.array, (h.pool.contents? a).isSome)
    (htarget : ∀ a ∈ t.weight.array, (k.pool.contents? a).isSome)
    (hopen : (k.pool.manager m).isOpen = true) :
    ∃ saved t' k', e.save h.pool = .ok saved ∧
      (∀ rest, (load m).runFrom (saved ++ rest, t, k) = (.ok (), rest, t', k')) ∧
      Restored e h t t' k k' := by
  have he := he.regular
  have ht := ht.regular
  rcases harray : e.weight.array with _ | a
  · obtain ⟨hsaved, hload⟩ := load_of_weight (e := e) (t := t) (k := k) (m := m)
      (Parameter.save_unset harray) fun rest => Parameter.load_unset
    exact ⟨_, t, k, hsaved, hload, restored_of_unset harray⟩
  · obtain ⟨x, hx⟩ := Option.isSome_iff_exists.mp (hsource a harray)
    have hasks := he.asks a harray x hx
    obtain ⟨saved, q, k', hsaved, hreloaded, hload⟩ := Parameter.load_recorded he.name ht.name
      harray hx (hasks.recordable hnumeric) ht.sound hopen
      fun b hb => Parameter.takes_of_contents? (htarget b hb) _
    rw [x.ranked_of_ne hasks.shape_ne] at hreloaded
    obtain ⟨hsaved, hload⟩ := load_of_weight hsaved hload
    exact ⟨_, _, k', hsaved, hload, he.restored_of_reloaded ht htarget harray hx hreloaded⟩

/-! ## A trial -/

/-- Short integers, the most significant byte first, for two items and all others. -/
def shortSettings : EmbeddingConfig :=
  ⟨.list [.text "a", .text "b"], .int 2, .bool true, .text ">i2"⟩

/-- The embedding of these settings. -/
def shortTrial : Embedding := ((shortSettings.build "trial").toOption).getD default

theorem build_shortTrial : shortSettings.build "trial" = .ok shortTrial := rfl

/-- The embedding on a host with one manager, set up with a strategy. -/
def trialSetUpBy (strategy : String) : Embedding × Host :=
  ((setUp ⟨0⟩ (.text strategy)).runFrom (shortTrial, Parameter.trialHost)).2

/-- The numbers from zero to five. -/
def countedUp : Tensor := .build ⟨.signed .two, true⟩ [3, 2] fun i => BitVec.ofNat 16 i

/-- The embedding after the array of its weight was overwritten. -/
def trialOverwritten : Embedding × Host :=
  let (e, h) := trialSetUpBy "ones"
  (e, ((Host.onPool (Pool.set ⟨0⟩ countedUp)).runFrom h).2)

theorem life_trialSetUpBy (strategy : String) :
    Life shortSettings (trialSetUpBy strategy).1 (trialSetUpBy strategy).2 :=
  .setUp (.built build_shortTrial Parameter.reached_trialHost) ⟨0⟩ (.text strategy) .null rfl rfl

theorem life_trialOverwritten : Life shortSettings trialOverwritten.1 trialOverwritten.2 :=
  .passed (life_trialSetUpBy "ones") (Host.along_onPool (Pool.along_set ⟨0⟩ countedUp) _)

theorem checkpoint_stable_overwritten :
    ∃ saved, trialOverwritten.1.save trialOverwritten.2.pool = .ok saved ∧ ∃ k',
      (load ⟨0⟩).runFrom (saved ++ [0x2A], trialSetUpBy "zeros") =
        (.ok (), [0x2A], (trialSetUpBy "zeros").1, k') ∧
      k'.pool.contents? ⟨0⟩ = some countedUp ∧
      (trialSetUpBy "zeros").1.save k'.pool = .ok saved := by
  have hsource : trialOverwritten.1.weight.array = some ⟨0⟩ := by decide +kernel
  have hcontents : trialOverwritten.2.pool.contents? ⟨0⟩ = some countedUp := by decide +kernel
  have htarget : (trialSetUpBy "zeros").1.weight.array = some ⟨0⟩ := by decide +kernel
  have hmanager : ((trialSetUpBy "zeros").2.pool.manager ⟨0⟩).isOpen = true := by decide +kernel
  have htargetOpen : ∀ a ∈ (trialSetUpBy "zeros").1.weight.array,
      ((trialSetUpBy "zeros").2.pool.contents? a).isSome := by
    intro a ha
    obtain rfl : (⟨0⟩ : ArrayId) = a := Option.some.inj (htarget.symm.trans ha)
    decide +kernel
  have hsourceOpen : ∀ a ∈ trialOverwritten.1.weight.array,
      (trialOverwritten.2.pool.contents? a).isSome := by
    intro a ha
    obtain rfl : (⟨0⟩ : ArrayId) = a := Option.some.inj (hsource.symm.trans ha)
    exact Option.isSome_of_eq_some hcontents
  obtain ⟨saved, t', k', hsaved, hload, hrestored⟩ := checkpoint_stable life_trialOverwritten
    (life_trialSetUpBy "zeros") (.number ⟨.signed .two, true⟩ fun _ => by decide) hsourceOpen
    htargetOpen hmanager
  have hset : (trialSetUpBy "zeros").1.weight.isSetUp = true := by
    rw [Parameter.isSetUp, htarget]
    rfl
  obtain rfl := hrestored.kept hset
  obtain ⟨x, hx, b, hb, hholds⟩ := hrestored.holds ⟨0⟩ hsource
  obtain rfl : (⟨0⟩ : ArrayId) = b := Option.some.inj (htarget.symm.trans hb)
  obtain rfl := Option.some.inj (hcontents.symm.trans hx)
  refine ⟨saved, hsaved, k', hload [0x2A], hholds, ?_⟩
  rw [hrestored.saved fun _ => by rw [Parameter.isSetUp, hsource]; rfl, hsaved]

end Embedding

end DataParallel

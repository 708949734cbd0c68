import DataParallel.Proofs.Embedding.Runs

/-!
# Rows of lookups

Where a store gives an open array of the embedding's shape, a lookup has at every index of the
items the row of this array that the item is mapped to.  Items that cannot be mapped, or not to a
rectangle, are refused before anything happens.
-/

namespace DataParallel

open Step

namespace Embedding

variable {σ : Type} [ParameterServer σ] {e : Embedding} {x : Store σ × Host} {m : ManagerId}
  {n : Nat}

/-! ## Refused items -/

theorem forward_of_embed_error {items : Value} {fault : Fault} (h : e.embed items = .error fault) :
    (e.forward m items).runFrom x = (.error fault, x) := by
  rw [forward, h]
  exact runFrom_bind_of_error (runFrom_ofExcept _ _)

theorem ofValue_of_ragged {v : Value} (h : ∀ shape, ¬v.Rectangular shape) :
    ∃ fault, Tensor.ofValue (some .int64) v = .error fault := by
  cases hshape : Tensor.literalShape v with
  | ok shape => exact absurd (Tensor.literalShape_eq_ok.mp hshape) (h shape)
  | error fault =>
    refine ⟨fault, ?_⟩
    rw [Tensor.ofValue, Literal.ofValue, hshape]
    rfl

theorem forward_of_ragged {items nested : Value} (hembed : e.embed items = .ok nested)
    (hragged : ∀ shape, ¬nested.Rectangular shape) :
    ∃ fault, (e.forward m items).runFrom x = (.error fault, x) := by
  obtain ⟨fault, hfault⟩ := ofValue_of_ragged hragged
  refine ⟨fault, ?_⟩
  rw [forward, hembed, runFrom_bind_of_ok (runFrom_ofExcept _ _), hfault]
  exact runFrom_bind_of_error (runFrom_ofExcept _ _)

/-! ## Rows -/

/-- After a lookup, `a` holds a vector for each index of the items: the row of `w` whose number
the nested value has at the index.  The store gives an array that holds `w` for the weight. -/
structure Gathers (e : Embedding) (device : Device) (n : Nat) (w : Contents) (nested : Value)
    (shape : Shape) (a : ArrayId) (z : Store σ × Host) : Prop where
  weight : ∃ b, (Store.getValue e.weight device).runFrom z = (.ok b, z) ∧
    z.2.pool.items? b = some w
  vectors : ∃ vectors, z.2.pool.items? a = some vectors ∧ vectors.shape = shape ++ [n] ∧
    vectors.itemType = w.itemType ∧
    ∀ index, shape.Contains index → ∃ row : Nat, nested.member? index = some (.int row) ∧
      row < e.rowCount ∧ vectors.slice index = w.slice [row]

/-- Lookups in a weight that holds `w`, of items whose indices are made by a manager. -/
structure LooksUp (e : Embedding) (m : ManagerId) (n : Nat) (w : Contents) (x : Store σ × Host) :
    Prop where
  /-- Rectangular items give the rows in their nesting. -/
  rows : ∀ items nested shape, e.embed items = .ok nested → nested.Rectangular shape →
    shape.length < Shape.maxRank →
    ∃ a z, (e.forward m items).runFrom x = (.ok a, z) ∧
      e.Gathers ((x.2.pool.manager m).device.or .cpu) n w nested shape a z
  /-- A single item gives the one row that the list of it alone gives. -/
  single : ∀ (item : Value) (row : Nat), e.embed item = .ok (.int row) →
    ∃ a z a' z' vectors, (e.forward m item).runFrom x = (.ok a, z) ∧
      z.2.pool.items? a = some (w.slice [row]) ∧
      (e.forward m (.list [item])).runFrom x = (.ok a', z') ∧
      z'.2.pool.items? a' = some vectors ∧ vectors.shape = [1, n] ∧
      vectors.slice [0] = w.slice [row]
  /-- Items that are not all mapped are refused. -/
  unmapped : ∀ items fault, e.embed items = .error fault →
    (e.forward m items).runFrom x = (.error fault, x)
  /-- Items that are nested in different ways are refused. -/
  ragged : ∀ items nested, e.embed items = .ok nested → (∀ shape, ¬nested.Rectangular shape) →
    ∃ fault, (e.forward m items).runFrom x = (.error fault, x)

/-- At each index, the gathered rows are those of the leaves. -/
theorem exists_row {w : Contents} {nested : Value} {shape : Shape} {rows : List Nat}
    (hw : w.shape = [e.rowCount, n]) (hshape : nested.Rectangular shape)
    (hleaves : Tensor.leaves nested = rows.map fun row : Nat => .int row)
    (hrows : ∀ row ∈ rows, row < e.rowCount) {index : List Nat} (hindex : shape.Contains index) :
    ∃ row : Nat, nested.member? index = some (.int row) ∧ row < e.rowCount ∧
      (w.gathered shape n rows).slice index = w.slice [row] := by
  have hlt : shape.offset index < rows.length := by
    have hlength := Tensor.length_leaves hshape
    rw [hleaves, List.length_map] at hlength
    rw [hlength]
    exact hindex.offset_lt
  have hrow : rows[shape.offset index]? = some rows[shape.offset index] :=
    List.getElem?_eq_getElem hlt
  refine ⟨rows[shape.offset index], ?_, hrows _ (List.getElem_mem hlt),
    Contents.slice_gathered hw hindex hrow⟩
  rw [← Tensor.getElem?_leaves hshape hindex, hleaves, List.getElem?_map, hrow, Option.map_some]

theorem embed_singleton {item index : Value} (h : e.embed item = .ok index) :
    e.embed (.list [item]) = .ok (.list [index]) := by
  rw [embed, embedAll, h, ok_bind, embedAll]
  rfl

theorem rectangular_singleton (row : Nat) : (Value.list [.int row]).Rectangular [1] :=
  ⟨[.int row], rfl, rfl, List.forall_mem_singleton.mpr rfl, nofun⟩

variable [Contained σ] {w : Contents}

theorem Sized.gathers (he : e.Sized n) (hx : Store.Consistent x)
    (harray : ∀ a ∈ e.weight.array, x.2.pool.Has a) (hopen : (x.2.pool.manager m).isOpen = true)
    (hfits : w.OfShape [e.rowCount, n]) (hyields : ∀ t, Store.Yields x e.weight m t w)
    {items nested : Value} {s : Shape} (hembed : e.embed items = .ok nested)
    (hshape : nested.Rectangular s) (hrank : s.length < Shape.maxRank) :
    ∃ a z, (e.forward m items).runFrom x = (.ok a, z) ∧
      e.Gathers ((x.2.pool.manager m).device.or .cpu) n w nested s a z := by
  obtain ⟨t, rows, hvalues, rfl, hleaves, hpositions, hrows⟩ :=
    exists_indices hshape hrank (he.below_embed items hembed) hfits
  obtain ⟨a, b, z, hrun, hvalue, hb, ha⟩ := forward_of_yields he.size hx harray hopen hembed
    hvalues hpositions hrows hrank hfits (hyields t)
  exact ⟨a, z, hrun, ⟨b, hvalue, hb⟩, w.gathered t.shape n rows, ha,
    w.shape_gathered t.shape n rows, w.itemType_gathered t.shape n rows,
    fun index hindex => exists_row hfits.shape hshape hleaves hrows hindex⟩

/-- Lookups in every embedding, whatever its weight holds: where the store gives an open array of
the shape of the weight, of items of any type, the vectors are rows of this array. -/
theorem looks_up_rows {c : EmbeddingConfig} {id : String} {e₀ : Embedding} {p : Parameter}
    (hbuild : c.build id = .ok e₀) (hsize : c.size = .int n) (hx : Store.Consistent x)
    (harray : ∀ a ∈ p.array, x.2.pool.Has a) (hopen : (x.2.pool.manager m).isOpen = true)
    (hfits : w.OfShape [e₀.rowCount, n]) (hyields : ∀ t, Store.Yields x p m t w) :
    LooksUp { e₀ with weight := p } m n w x := by
  have hbuilt := EmbeddingConfig.sized_build hbuild hsize
  have hsized : Sized n { e₀ with weight := p } :=
    ⟨hbuilt.size, hbuilt.row_lt, hbuilt.default_lt⟩
  refine ⟨fun _ _ _ => hsized.gathers hx harray hopen hfits hyields, fun item row hitem => ?_,
    fun _ _ => forward_of_embed_error, fun _ _ => forward_of_ragged⟩
  obtain ⟨a, z, hrun, -, vectors, ha, -, -, hvector⟩ :=
    hsized.gathers (s := []) hx harray hopen hfits hyields hitem rfl (by decide)
  obtain ⟨a', z', hrun', -, vectors', ha', hshape, -, hvectors⟩ :=
    hsized.gathers (s := [1]) hx harray hopen hfits hyields (embed_singleton hitem)
      (rectangular_singleton row) (by decide)
  obtain ⟨row₁, hrow₁, -, hslice⟩ := hvector [] trivial
  obtain ⟨row₂, hrow₂, -, hslice'⟩ := hvectors [0] ⟨Nat.one_pos, trivial⟩
  obtain rfl : row = row₁ := Int.ofNat.inj (Value.int.inj (Option.some.inj hrow₁))
  obtain rfl : row = row₂ := Int.ofNat.inj (Value.int.inj (Option.some.inj hrow₂))
  rw [Contents.slice_nil] at hslice
  rw [hslice] at ha
  exact ⟨a, z, a', z', vectors', hrun, ha, hrun', ha', hshape, hslice'⟩

/-- An embedding of two items next to a store over two devices. -/
def trialSpread : Embedding × Store RecordingServer × Host :=
  Event.after (trialSetUp [.text "a", .text "b"] "ones")
    (.store (.setServer (some .new) [.cpu, .gpu]))

/-- The store after it was asked for the weight. -/
def trialPlaced : Store RecordingServer × Host :=
  ((Store.getValue trialSpread.1.weight .cpu).runFrom trialSpread.2).2

theorem looks_up_rows_placed :
    LooksUp { trialOf [.text "a", .text "b"] with weight := trialSpread.1.weight } ⟨0⟩ 2
      (.tensor (.ones .float32 [3, 2])) trialPlaced := by
  have hrun : Run (trialStart [.text "a", .text "b"])
      ([] ++ [.setUp ⟨0⟩ (.text "ones") .null] ++ [.store (.setServer (some .new) [.cpu, .gpu])])
      trialSpread :=
    .snoc _ (.snoc _ .nil rfl) ⟨trivial, nofun⟩
  have hfits := hrun.fits
    (fits_build build_trialOf rfl Store.begins_trialStart.consistent.1 rfl)
  have harray : ∀ a ∈ trialSpread.1.weight.array, trialSpread.2.2.pool.Has a :=
    fun a ha => (hfits.fitted.canonical a ha).has
  have hvalue : (Store.getValue trialSpread.1.weight .cpu).runFrom trialSpread.2 =
      (.ok ⟨1⟩, trialPlaced) :=
    Store.eq_ok_of_toOption (by decide +kernel)
  have hitems : trialPlaced.2.pool.items? ⟨1⟩ = some (.tensor (.ones .float32 [3, 2])) := by
    decide +kernel
  have hdevice : (trialPlaced.2.pool.manager ⟨0⟩).device.or .cpu = .cpu := by
    decide +kernel
  have hopen : (trialPlaced.2.pool.manager ⟨0⟩).isOpen = true := by
    decide +kernel
  have hasked := hfits.consistent.asked harray .cpu
  rw [hvalue] at hasked
  have hplaced := hasked.consistent hfits.consistent
  have hevolves := hasked.evolves
  dsimp only at hplaced hevolves
  have hyields (t : Tensor) : Store.Yields trialPlaced trialSpread.1.weight ⟨0⟩ t
      (.tensor (.ones .float32 [3, 2])) :=
    Store.yields_of_given hfits.consistent harray (by rw [hdevice, hvalue]) hitems t
  exact looks_up_rows build_trialOf rfl hplaced (fun a ha => hevolves.has (harray a ha)) hopen
    ⟨rfl, by decide, by decide⟩ hyields

end Embedding

end DataParallel

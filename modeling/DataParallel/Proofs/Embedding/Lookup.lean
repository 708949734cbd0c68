import DataParallel.Embedding.Lookup
import DataParallel.Proofs.Embedding.Indices
import DataParallel.Proofs.Pool.Selection
import DataParallel.Proofs.Store.Serving

/-!
# Lookups in weights that fit

A store that keeps arrays of the embedding's shape for the weight gives one of them, and a lookup
finds the rows of all items in it.
-/

namespace DataParallel

open Step

/-! ## Lookups -/

namespace Embedding

variable {σ : Type} {count n : Nat}

theorem runFrom_onPool {α : Type} {step : Step Pool α} {s : Store σ} {h : Host}
    {result : Except Fault α} {q : Pool} (hstep : step.runFrom h.pool = (result, q)) :
    (onPool step).runFrom (s, h) = (result, s, { h with pool := q }) := by
  rw [onPool, runFrom_second, Host.onPool, runFrom_within, hstep]

theorem positions_withShape (t : Tensor) (s : Shape) : (t.withShape s).positions = t.positions := by
  rcases t with ⟨d, own, cells, hcells⟩
  rw [Tensor.withShape]
  split
  · rfl
  · rfl

/-- A tensor without dimensions can be seen as a row of one. -/
theorem reshape_single {t : Tensor} (ht : t.shape = []) :
    Contents.reshape t [1] = .ok (.tensor (t.withShape [1])) ∧ (t.withShape [1]).shape = [1] := by
  have hsize : t.size = 1 := by
    rw [Tensor.size, ht]
    rfl
  have haddressable : Shape.addressable t.dtype.itemSize [1] = true := by
    rcases t.dtype with ⟨_ | w | w | p, b⟩
    · rfl
    · cases w <;> rfl
    · cases w <;> rfl
    · cases p <;> rfl
  have hresolve : Shape.resolve? t.size [1] = some [1] := by
    rw [hsize]
    rfl
  have hreshaped : Tensor.reshaped t.dtype.itemSize t.size [1] = .ok [1] := by
    rw [Tensor.reshaped]
    simp only [hresolve, haddressable, if_true]
  constructor
  · exact (congrArg (fun r => r >>= fun s => .ok (Contents.withShape t s)) hreshaped).trans rfl
  · exact Tensor.shape_withShape hsize

/-- The one row that was taken is seen without its first dimension. -/
theorem reshape_row {c rows : Contents} (hc : c.OfShape [count, n]) (hcount : 0 < count)
    (hrows : rows.shape = [1, n]) (htype : rows.itemType = c.itemType) :
    rows.reshape [(n : Int)] = .ok (rows.withShape [n]) := by
  have hsize : rows.size = n := by
    rw [Contents.size, hrows]
    simp [Shape.size]
  have haddressable : Shape.addressable rows.itemType.size [n] = true := by
    have hall := Shape.addressable_iff.mp hc.addressable
    rw [htype]
    refine Shape.addressable_iff.mpr ⟨by simp [Shape.maxRank], Nat.lt_of_le_of_lt ?_ hall.2⟩
    refine Nat.mul_le_mul_left _ ?_
    have hfirst : count ≠ 0 := Nat.ne_of_gt hcount
    by_cases hn : n = 0
    · simp [hn, hfirst, Shape.size]
      omega
    · simp [hn, hfirst, Shape.size]
      exact Nat.le_mul_of_pos_left n hcount
  have hresolve : Shape.resolve? n [(n : Int)] = some [n] :=
    Shape.resolve?_wholes (s := [n]) (by simp [Shape.size])
  rw [Contents.reshape, Tensor.reshaped, hsize]
  simp only [hresolve, haddressable, if_true]
  rfl

section Rows

variable [ParameterServer σ] {e : Embedding} {s : Store σ} {k : Host} {indices b : ArrayId}
  {y : Store σ × Host} {t : Tensor} {w : Contents} {rows : List Nat}
  (hvalue : (Store.getValue e.weight (k.pool.array indices).device).runFrom (s, k) = (.ok b, y))
  (ht : y.2.pool.contents? indices = some t) (hw : y.2.pool.items? b = some w)
  (hfits : w.OfShape [count, n])
  (hpositions : t.positions = rows.map fun row : Nat => (row : Int))
  (hrows : ∀ row ∈ rows, row < count)

include hvalue ht hw hfits hpositions hrows

/-- Nested items give the rows in their nesting. -/
theorem forwardIndices_nested (hrank : t.shape.length < Shape.maxRank) (hnested : t.shape ≠ []) :
    ∃ a z, (e.forwardIndices indices).runFrom (s, k) = (.ok a, z) ∧ z.1 = y.1 ∧
      y.2.pool.Extends z.2.pool ∧
      z.2.pool.items? a = some (w.gathered t.shape n rows) := by
  have htake := Contents.take_eq_gathered hfits.shape hrank hpositions hrows
  have hgiven := runFrom_onPool (s := y.1) (h := y.2)
    (Pool.runFrom_items (Pool.contents?_eq_some.mp ht))
  have hgather := runFrom_onPool (s := y.1) (h := y.2) (Pool.runFrom_gather hw ht htake)
  refine ⟨y.2.pool.nextArray, (y.1, { y.2 with
    pool := y.2.pool.placed (y.2.pool.array b).device (w.gathered t.shape n rows) }), ?_, rfl,
    Pool.extends_addOwning rfl, Pool.items?_placed_next _ _⟩
  rw [forwardIndices, runFrom_bind_of_ok (runFrom_get _), runFrom_bind_of_ok hvalue,
    runFrom_bind_of_ok hgiven, Contents.shape_tensor, if_neg hnested, hgather]

/-- A single item gives one row. -/
theorem forwardIndices_single (hsize : e.size = .int n) (hy : y.2.pool.Sound)
    (hsingle : t.shape = []) :
    ∃ a z, (e.forwardIndices indices).runFrom (s, k) = (.ok a, z) ∧ z.1 = y.1 ∧
      y.2.pool.Extends z.2.pool ∧
      z.2.pool.items? a = some (w.gathered t.shape n rows) := by
  obtain ⟨hreshape, hone⟩ := reshape_single hsingle
  obtain ⟨q, hview, hext, hq⟩ :=
    Pool.runFrom_reshape (Pool.contents?_eq_some.mp ht) hreshape
  have hweight : q.items? b = some w := (hext.items? hy (Pool.has_of_items? hw)).trans hw
  have htake : w.take (t.withShape [1]) = .ok (w.gathered [1] n rows) := by
    rw [Contents.take_eq_gathered hfits.shape (by rw [hone]; decide)
      ((positions_withShape t [1]).trans hpositions) hrows, hone]
  have hcount : 0 < count := by
    have hlength : rows.length = 1 := by
      have hall := congrArg List.length hpositions
      rw [Tensor.length_positions, Tensor.size, hsingle, List.length_map] at hall
      exact hall.symm
    obtain ⟨row, hrow⟩ := List.exists_mem_of_length_pos (hlength ▸ Nat.one_pos)
    exact Nat.zero_lt_of_lt (hrows row hrow)
  have hrow : (w.gathered [1] n rows).reshape [(n : Int)] =
      .ok ((w.gathered [1] n rows).withShape [n]) :=
    reshape_row hfits hcount (w.shape_gathered [1] n rows) (w.itemType_gathered [1] n rows)
  rw [Contents.withShape_gathered] at hrow
  obtain ⟨r, hlast, hext', hr⟩ :=
    Pool.runFrom_reshape (Pool.items?_placed_next (p := q) (q.array b).device _) hrow
  have hgiven := runFrom_onPool (s := y.1) (h := y.2)
    (Pool.runFrom_items (Pool.contents?_eq_some.mp ht))
  have hreshaped := runFrom_onPool (s := y.1) (h := y.2) hview
  have hgather := runFrom_onPool (s := y.1) (h := { y.2 with pool := q })
    (Pool.runFrom_gather hweight (Pool.contents?_eq_some.mpr hq) htake)
  have hdimension : Shape.dimension e.size = .ok (n : Int) := by
    have hn := hfits.size_lt
    rw [hsize, Shape.dimension, if_pos (by omega)]
  rw [hsingle]
  refine ⟨_, (y.1, { y.2 with pool := r }), ?_, rfl,
    (hext.trans (Pool.extends_addOwning rfl)).trans hext', hr⟩
  rw [forwardIndices, runFrom_bind_of_ok (runFrom_get _), runFrom_bind_of_ok hvalue,
    runFrom_bind_of_ok hgiven, Contents.shape_tensor, if_pos hsingle,
    runFrom_bind_of_ok hreshaped, runFrom_bind_of_ok hgather, hdimension,
    runFrom_bind_of_ok (runFrom_ofExcept _ _)]
  exact runFrom_onPool hlast

end Rows

end Embedding

/-! ## Stores that give arrays -/

namespace Store

theorem Consistent.created {σ : Type} {x : Store σ × Host} (hx : Consistent x) (m : ManagerId)
    (t : Tensor) : Consistent (x.1, { x.2 with pool := x.2.pool.created m .unset t }) :=
  ⟨Pool.extends_created.sound hx.sound, hx.single, hx.settled, hx.full, hx.names⟩

variable {σ : Type} [ParameterServer σ]

/-- Asked for a parameter on the device of a manager, behind a new array of it that holds `t`, the
store gives an array that holds `w`, and leaves the new one as it is. -/
def Yields (x : Store σ × Host) (p : Parameter) (m : ManagerId) (t : Tensor) (w : Contents) :
    Prop :=
  ∃ b y, (getValue p ((x.2.pool.manager m).device.or .cpu)).runFrom
      (x.1, { x.2 with pool := x.2.pool.created m .unset t }) = (.ok b, y) ∧
    y.2.pool.items? b = some w ∧ y.2.pool.contents? x.2.pool.nextArray = some t

/-- What a store has given once, it gives behind every new array too. -/
theorem yields_of_given [Contained σ] {x y : Store σ × Host} {p : Parameter} {m : ManagerId}
    {b : ArrayId} {w : Contents} (hx : Consistent x) (harray : ∀ a ∈ p.array, x.2.pool.Has a)
    (hvalue : (getValue p ((y.2.pool.manager m).device.or .cpu)).runFrom x = (.ok b, y))
    (hw : y.2.pool.items? b = some w) (t : Tensor) : Yields y p m t w := by
  have hasked := hx.asked harray ((y.2.pool.manager m).device.or .cpu)
  rw [hvalue] at hasked
  have hy : y.2.pool.Sound := (hasked.consistent hx).sound
  refine ⟨b, _, hasked.again hx _, ?_, Pool.contents?_created_next⟩
  exact (Pool.extends_created.items? hy (Pool.has_of_items? hw)).trans hw

end Store

theorem Pool.device_created {p : Pool} {m : ManagerId} (t : Contents) :
    ((p.created m .unset t).array p.nextArray).device = (p.manager m).device.or .cpu := by
  have hbound : ((p.created m .unset t).array p.nextArray).device =
      ((p.placed (Device.unset.or (p.manager m).device) t).array p.nextArray).device := by
    rw [Pool.created, Pool.bound, Pool.array_updateArray]
    split
    · rfl
    · rfl
  rw [hbound, Pool.array_placed_next]
  rfl

namespace Embedding

variable {σ : Type} [ParameterServer σ] [Contained σ] {e : Embedding} {x : Store σ × Host}
  {m : ManagerId} {n : Nat}

/-- A lookup of rectangular items gathers their rows in the array that the store gives, and the
store gives the same array again. -/
theorem forward_of_yields {items nested : Value} {t : Tensor} {w : Contents} {rows : List Nat}
    (hsize : e.size = .int n) (hx : Store.Consistent x)
    (harray : ∀ a ∈ e.weight.array, x.2.pool.Has a) (hopen : (x.2.pool.manager m).isOpen = true)
    (hembed : e.embed items = .ok nested)
    (hvalues : Tensor.ofValue (some .int64) nested = .ok t)
    (hpositions : t.positions = rows.map fun row : Nat => (row : Int))
    (hrows : ∀ row ∈ rows, row < e.rowCount) (hrank : t.shape.length < Shape.maxRank)
    (hfits : w.OfShape [e.rowCount, n]) (hyields : Store.Yields x e.weight m t w) :
    ∃ a b z, (e.forward m items).runFrom x = (.ok a, z) ∧
      (Store.getValue e.weight ((x.2.pool.manager m).device.or .cpu)).runFrom z = (.ok b, z) ∧
      z.2.pool.items? b = some w ∧
      z.2.pool.items? a = some (w.gathered t.shape n rows) := by
  obtain ⟨b, y, hvalue, hw, ht⟩ := hyields
  have hlater := hx.created m t
  have hasked := hlater.asked (fun a ha => Pool.extends_created.has (harray a ha))
    ((x.2.pool.manager m).device.or .cpu)
  rw [hvalue] at hasked
  have hy : y.2.pool.Sound := (hasked.consistent hlater).sound
  rw [← Pool.device_created t] at hvalue
  obtain ⟨a, z, hrun, hstore, hext, ha⟩ : ∃ a z,
      (e.forwardIndices x.2.pool.nextArray).runFrom
        (x.1, { x.2 with pool := x.2.pool.created m .unset t }) = (.ok a, z) ∧ z.1 = y.1 ∧
      y.2.pool.Extends z.2.pool ∧ z.2.pool.items? a = some (w.gathered t.shape n rows) := by
    by_cases hsingle : t.shape = []
    · exact forwardIndices_single hvalue ht hw hfits hpositions hrows hsize hy hsingle
    · exact forwardIndices_nested hvalue ht hw hfits hpositions hrows hrank hsingle
  have hnew : (Pool.create m (.ok t)).runFrom x.2.pool =
      (.ok x.2.pool.nextArray, x.2.pool.created m .unset t) :=
    Pool.runFrom_create hopen
  have hcreate := runFrom_onPool (s := x.1) (h := x.2) hnew
  refine ⟨a, b, z, ?_, ?_, ?_, ha⟩
  · rw [forward, hembed, runFrom_bind_of_ok (runFrom_ofExcept _ _), hvalues,
      runFrom_bind_of_ok (runFrom_ofExcept _ _), runFrom_bind_of_ok hcreate, hrun]
  · have hagain := hasked.again hlater z.2
    rwa [← hstore] at hagain
  · exact (hext.items? hy (Pool.has_of_items? hw)).trans hw

/-- Rectangular items within a weight that can be addressed have a tensor of positions. -/
theorem exists_indices {nested : Value} {shape : Shape} {w : Contents}
    (hshape : nested.Rectangular shape) (hrank : shape.length < Shape.maxRank)
    (hbelow : nested.Below e.rowCount) (hfits : w.OfShape [e.rowCount, n]) :
    ∃ (t : Tensor) (rows : List Nat), Tensor.ofValue (some .int64) nested = .ok t ∧
      t.shape = shape ∧
      Tensor.leaves nested = rows.map (fun row : Nat => .int row) ∧
      t.positions = rows.map (fun row : Nat => (row : Int)) ∧ ∀ row ∈ rows, row < e.rowCount := by
  obtain ⟨rows, hleaves, hrows⟩ := exists_wholes hbelow
  obtain ⟨t, hvalues, hts, hpositions⟩ := Tensor.exists_positions hshape (Nat.le_of_lt hrank)
    hleaves fun row hrow => Nat.lt_trans (hrows row hrow) hfits.count_lt
  exact ⟨t, rows, hvalues, hts, hleaves, hpositions, hrows⟩

end Embedding

end DataParallel

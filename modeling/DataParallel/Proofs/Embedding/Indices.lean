import DataParallel.Embedding.Basic
import DataParallel.Proofs.Tensor.Slice

/-!
# Indices of items

An embedding that was built from a configuration gives no item a row that its weight will not have.
So the members of a nested index are all rows of the weight, the index is a tensor of eight-byte
integers, and the rows that it names can be taken from every weight of the embedding's shape.
-/

namespace DataParallel

/-! ## Rows of items -/

/-- The embedding has vectors of `n` elements, and its items have rows of its weight. -/
structure Embedding.Sized (n : Nat) (e : Embedding) : Prop where
  size : e.size = .int n
  row_lt : ∀ entry ∈ e.rows, entry.2 < e.rowCount
  default_lt : e.useDefault.truthy = true → 0 < e.rowCount

theorem Value.mem_of_mem_insert {α : Type} {key : Value} {a : α} {es : List (Value × α)}
    {entry : Value × α} (h : entry ∈ Value.insert key a es) : entry.2 = a ∨ entry ∈ es := by
  induction es with
  | nil =>
    rw [Value.insert, List.mem_singleton] at h
    exact Or.inl (by rw [h])
  | cons first rest ih =>
    rw [Value.insert] at h
    split at h
    · rcases List.mem_cons.mp h with rfl | hrest
      · exact Or.inl rfl
      · exact Or.inr (List.mem_cons_of_mem _ hrest)
    · rcases List.mem_cons.mp h with rfl | hrest
      · exact Or.inr List.mem_cons_self
      · exact (ih hrest).imp_right (List.mem_cons_of_mem _)

namespace EmbeddingConfig

/-- Numbering goes on from row to row, and of what was numbered before nothing gets a new row. -/
theorem numbered_lt {items : List Value} {row : Nat} {rows numbers : List (Value × Nat)}
    (h : numbered row items rows = .ok numbers) (hrows : ∀ entry ∈ rows, entry.2 < row) :
    ∀ entry ∈ numbers, entry.2 < row + items.length := by
  induction items generalizing row rows with
  | nil =>
    rw [numbered] at h
    rw [← Except.ok.inj h]
    exact hrows
  | cons item rest ih =>
    rw [numbered] at h
    split at h
    · intro entry hentry
      have hlt := ih h (fun entry hentry => ?_) entry hentry
      · rw [List.length_cons]
        omega
      · rcases Value.mem_of_mem_insert hentry with hnew | hold
        · omega
        · exact Nat.lt_succ_of_lt (hrows entry hold)
    · cases h

theorem sized_build {c : EmbeddingConfig} {id : String} {e : Embedding} {n : Nat}
    (hbuild : c.build id = .ok e) (hsize : c.size = .int n) : e.Sized n := by
  obtain ⟨dtype, -, hbuild⟩ := exists_of_bind_eq_ok hbuild
  obtain ⟨items, -, hbuild⟩ := exists_of_bind_eq_ok hbuild
  obtain ⟨rows, hrows, hbuild⟩ := exists_of_bind_eq_ok hbuild
  obtain rfl := Except.ok.inj hbuild
  constructor
  · exact hsize
  · exact numbered_lt hrows fun entry hentry => by cases hentry
  · intro hdefault
    show 0 < c.firstRow + items.length
    rw [firstRow, if_pos hdefault]
    omega

/-- What was built has a weight that was just made, of its own name. -/
theorem weight_build {c : EmbeddingConfig} {id : String} {e : Embedding}
    (hbuild : c.build id = .ok e) : e.weight = Parameter.new id (.text "embedding") := by
  obtain ⟨dtype, -, hbuild⟩ := exists_of_bind_eq_ok hbuild
  obtain ⟨items, -, hbuild⟩ := exists_of_bind_eq_ok hbuild
  obtain ⟨rows, -, hbuild⟩ := exists_of_bind_eq_ok hbuild
  obtain rfl := Except.ok.inj hbuild
  rfl

end EmbeddingConfig

/-! ## Nested indices -/

/-- Whether a value is looked into for the items that it holds. -/
def Value.isNested : Value → Bool
  | .array _ | .list _ | .tuple _ => true
  | _ => false

/-- Every member of a nested value is a whole number of these. -/
def Value.Below (count : Nat) (v : Value) : Prop :=
  ∀ leaf ∈ Tensor.leaves v, ∃ k : Nat, leaf = .int k ∧ k < count

namespace Embedding

variable {n : Nat} {e : Embedding}

theorem Sized.row?_lt (h : e.Sized n) {item : Value} {row : Nat} (hrow : e.row? item = some row) :
    row < e.rowCount := by
  rw [row?] at hrow
  split at hrow
  · obtain ⟨entry, hentry, rfl⟩ := Option.map_eq_some_iff.mp hrow
    exact h.row_lt entry (List.mem_of_find?_eq_some hentry)
  · cases hrow

theorem below_int {count k : Nat} (h : k < count) : (Value.int k).Below count := by
  intro leaf hleaf
  rw [Tensor.leaves, List.mem_singleton] at hleaf
  · exact ⟨k, hleaf, h⟩
  · simp
  · simp

/-- A single item has a row, or the row for items that are not known. -/
theorem Sized.below_item (h : e.Sized n) {item index : Value}
    (hsingle : item.isNested = false) (hindex : e.embed item = .ok index) :
    index.Below e.rowCount := by
  rw [embed] at hindex
  rotate_left
  · rintro rows rfl
    cases hsingle
  · rintro vs rfl
    cases hsingle
  · rintro vs rfl
    cases hsingle
  split at hindex
  · next row hrow =>
    rw [← Except.ok.inj hindex]
    exact below_int (h.row?_lt hrow)
  · rw [unknownRow] at hindex
    split at hindex
    · next hdefault =>
      rw [← Except.ok.inj hindex]
      exact below_int (h.default_lt hdefault)
    · cases hindex

theorem below_list {count : Nat} {vs : List Value}
    (h : ∀ leaf ∈ Tensor.leavesOf vs, ∃ k : Nat, leaf = .int k ∧ k < count) :
    (Value.list vs).Below count := by
  rw [Value.Below, Tensor.leaves]
  exact h

mutual

/-- By induction on the items: whatever nesting they have, the members of the indices are rows. -/
theorem Sized.below_embed (h : e.Sized n) : ∀ (items : Value) {index : Value},
    e.embed items = .ok index → index.Below e.rowCount
  | .array rows, index, hindex => by
    rw [embed] at hindex
    exact Sized.below_embed h rows hindex
  | .list vs, index, hindex => by
    rw [embed] at hindex
    obtain ⟨indices, hindices, hok⟩ := exists_of_bind_eq_ok hindex
    rw [← Except.ok.inj hok]
    exact below_list (Sized.below_embedAll h vs hindices)
  | .tuple vs, index, hindex => by
    rw [embed] at hindex
    split at hindex
    · next row hrow =>
      rw [← Except.ok.inj hindex]
      exact below_int (h.row?_lt hrow)
    · obtain ⟨indices, hindices, hok⟩ := exists_of_bind_eq_ok hindex
      rw [← Except.ok.inj hok]
      exact below_list (Sized.below_embedAll h vs hindices)
  | .null, _, hindex => h.below_item rfl hindex
  | .bool _, _, hindex => h.below_item rfl hindex
  | .int _, _, hindex => h.below_item rfl hindex
  | .float _, _, hindex => h.below_item rfl hindex
  | .text _, _, hindex => h.below_item rfl hindex
  | .broken _, _, hindex => h.below_item rfl hindex
  | .bytes _, _, hindex => h.below_item rfl hindex
  | .record _, _, hindex => h.below_item rfl hindex
  | .extension .., _, hindex => h.below_item rfl hindex
  | .timestamp .., _, hindex => h.below_item rfl hindex

theorem Sized.below_embedAll (h : e.Sized n) : ∀ (vs : List Value) {indices : List Value},
    e.embedAll vs = .ok indices →
      ∀ leaf ∈ Tensor.leavesOf indices, ∃ k : Nat, leaf = .int k ∧ k < e.rowCount
  | [], indices, hindices => by
    rw [embedAll] at hindices
    rw [← Except.ok.inj hindices]
    intro leaf hleaf
    cases hleaf
  | v :: vs, indices, hindices => by
    rw [embedAll] at hindices
    obtain ⟨first, hfirst, hindices⟩ := exists_of_bind_eq_ok hindices
    obtain ⟨others, hothers, hok⟩ := exists_of_bind_eq_ok hindices
    rw [← Except.ok.inj hok]
    intro leaf hleaf
    rw [Tensor.leavesOf] at hleaf
    rcases List.mem_append.mp hleaf with hin | hout
    · exact Sized.below_embed h v hfirst leaf hin
    · exact Sized.below_embedAll h vs hothers leaf hout

end

end Embedding

/-! ## Tensors of indices -/

theorem exists_wholes {count : Nat} {leaves : List Value}
    (h : ∀ leaf ∈ leaves, ∃ k : Nat, leaf = .int k ∧ k < count) :
    ∃ rows : List Nat, leaves = rows.map (fun k : Nat => .int k) ∧ ∀ k ∈ rows, k < count := by
  induction leaves with
  | nil => exact ⟨[], rfl, List.forall_mem_nil _⟩
  | cons leaf leaves ih =>
    rw [List.forall_mem_cons] at h
    obtain ⟨k, rfl, hk⟩ := h.1
    obtain ⟨rows, rfl, hrows⟩ := ih h.2
    exact ⟨k :: rows, rfl, List.forall_mem_cons.mpr ⟨hk, hrows⟩⟩

theorem mapM_map_ok {α β γ : Type} {f : β → Except Fault γ} {g : α → β} {h : α → γ} {xs : List α}
    (hf : ∀ x ∈ xs, f (g x) = .ok (h x)) : (xs.map g).mapM f = .ok (xs.map h) := by
  induction xs with
  | nil => rfl
  | cons x xs ih =>
    rw [List.forall_mem_cons] at hf
    rw [List.map_cons, List.mapM_cons, hf.1, ih hf.2]
    rfl

namespace Tensor

/-- The element of eight bytes that a whole number becomes. -/
def wholeCell (k : Nat) : Dtype.int64.Cell := ElementType.ofInt (.signed .eight) k

theorem memberCell_whole {k : Nat} (h : k < 2 ^ 63) :
    memberCell Dtype.int64.element (.int k) = .ok (wholeCell k) := by
  have hholds : Scalar.holds (.signed .eight) k = true := by
    have hrange : Scalar.range (.signed .eight) = (-(2 ^ 63), 2 ^ 63 - 1) := rfl
    simp only [Scalar.holds, hrange, Bool.or_eq_true, Bool.and_eq_true, decide_eq_true_eq]
    omega
  exact if_pos hholds

/-- A whole number that eight bytes hold comes back from its element. -/
theorem toInt_wholeCell {k : Nat} (h : k < 2 ^ 63) :
    ElementType.toInt (.signed .eight) (wholeCell k) = k := by
  show (BitVec.ofInt 64 k).toInt = k
  rw [BitVec.toInt_ofInt]
  exact Int.bmod_eq_of_le (by omega) (by omega)

/-- A rectangular index is a tensor of its shape, and its members are positions in a weight. -/
theorem exists_positions {v : Value} {s : Shape} {rows : List Nat} (hs : v.Rectangular s)
    (hrank : s.length ≤ Shape.maxRank) (hleaves : leaves v = rows.map (fun k : Nat => .int k))
    (hrows : ∀ k ∈ rows, k < 2 ^ 63) :
    ∃ t, ofValue (some .int64) v = .ok t ∧ t.shape = s ∧
      t.positions = rows.map fun k : Nat => (k : Int) := by
  have hmap : (leaves v).mapM (memberCell Dtype.int64.element) = .ok (rows.map wholeCell) := by
    rw [hleaves]
    exact mapM_map_ok fun k hk => memberCell_whole (hrows k hk)
  have hsize : (rows.map wholeCell).length = s.size := by
    rw [List.length_map, ← length_leaves hs, hleaves, List.length_map]
  have hliteral : Literal.ofValue v = .ok ⟨s, leaves v⟩ := by
    rw [Literal.ofValue, literalShape_eq_ok.mpr hs]
    simp only [ok_bind, if_neg (Nat.not_lt.mpr hrank)]
    rfl
  refine ⟨⟨.int64, s, rows.map wholeCell, hsize⟩, ?_, rfl, ?_⟩
  · simp only [ofValue, hliteral, ok_bind, Literal.toTensor, hmap, dif_pos hsize]
    rfl
  · have hself : (rows.map wholeCell).map
        (ElementType.convert Dtype.int64.element Dtype.int64.element) = rows.map wholeCell :=
      List.map_id'' (ElementType.convert_self Dtype.int64.element) _
    calc (⟨.int64, s, rows.map wholeCell, hsize⟩ : Tensor).positions
        = (rows.map wholeCell).map (ElementType.toInt (.signed .eight)) :=
          congrArg (List.map _) hself
      _ = rows.map (ElementType.toInt (.signed .eight) ∘ wholeCell) := List.map_map
      _ = rows.map fun k : Nat => (k : Int) :=
          List.map_congr_left fun k hk => toInt_wholeCell (hrows k hk)

theorem length_positions (t : Tensor) : t.positions.length = t.size :=
  (List.length_map _).trans (t.cast .int64).length_cells

/-- Positions in a weight are the numbers of its rows. -/
theorem selected_rows {s : Shape} {indices : Tensor} {count n : Nat} {rows : List Nat}
    (hs : s = [count, n]) (hrank : indices.shape.length < Shape.maxRank)
    (hpositions : indices.positions = rows.map fun k : Nat => (k : Int))
    (hrows : ∀ k ∈ rows, k < count) :
    selected s indices = .ok (indices.shape ++ [n], fun i =>
      rows.getD (i / Shape.size [n]) 0 * Shape.size [n] + i % Shape.size [n]) := by
  have hmap : indices.positions.mapM (rowIndex count) = .ok rows := by
    rw [hpositions, mapM_map_ok (h := id), List.map_id]
    exact fun k hk => if_pos ⟨Int.natCast_nonneg k, Int.ofNat_lt.mpr (hrows k hk)⟩
  have hfits : ¬Shape.maxRank < (indices.shape ++ [n]).length := by
    rw [List.length_append, List.length_singleton]
    omega
  subst hs
  unfold selected
  dsimp only
  rw [if_neg hfits, hmap]
  rfl

end Tensor

/-! ## Contents of any type -/

namespace Contents

/-- The rows of a weight of vectors of `n` items, in a nesting. -/
def gathered (c : Contents) (shape : Shape) (n : Nat) (rows : List Nat) : Contents :=
  c.pick (shape ++ [n]) fun i => rows.getD (i / Shape.size [n]) 0 * Shape.size [n] +
    i % Shape.size [n]

variable (c : Contents)

theorem shape_gathered (s : Shape) (n : Nat) (rows : List Nat) :
    (c.gathered s n rows).shape = s ++ [n] := by
  cases c <;> rfl

theorem itemType_gathered (s : Shape) (n : Nat) (rows : List Nat) :
    (c.gathered s n rows).itemType = c.itemType := by
  cases c <;> rfl

theorem take_eq_gathered {c : Contents} {indices : Tensor} {count n : Nat} {rows : List Nat}
    (hc : c.shape = [count, n]) (hrank : indices.shape.length < Shape.maxRank)
    (hpositions : indices.positions = rows.map fun k : Nat => (k : Int))
    (hrows : ∀ k ∈ rows, k < count) :
    c.take indices = .ok (c.gathered indices.shape n rows) := by
  rw [take, Tensor.selected_rows hc hrank hpositions hrows]
  rfl

/-- The slice of the gathered rows at an index is the row that has the number there. -/
theorem slice_gathered {c : Contents} {s : Shape} {count n k : Nat} {rows : List Nat}
    {index : List Nat} (hc : c.shape = [count, n]) (hindex : s.Contains index)
    (hk : rows[s.offset index]? = some k) :
    (c.gathered s n rows).slice index = c.slice [k] := by
  have hdrop : (s ++ [n]).drop index.length = [n] := by
    rw [hindex.length_eq, List.drop_left]
  have hrow : c.slice [k] = c.pick [n] fun i => k * Shape.size [n] + i := by
    rw [slice, hc]
    rfl
  have hlt : ∀ i < Shape.size [n],
      Shape.offset (s ++ [n]) index + i < Shape.size (s ++ [n]) := by
    intro i hi
    rw [hindex.offset_append, Shape.size_append]
    calc s.offset index * Shape.size [n] + i
        < s.offset index * Shape.size [n] + Shape.size [n] := Nat.add_lt_add_left hi _
      _ = (s.offset index + 1) * Shape.size [n] := (Nat.succ_mul _ _).symm
      _ ≤ s.size * Shape.size [n] := Nat.mul_le_mul_right _ hindex.offset_lt
  rw [hrow, slice, shape_gathered, hdrop, gathered, pick_pick _ _ hlt]
  refine c.pick_congr fun i hi => ?_
  have hpositive : 0 < Shape.size [n] := Nat.zero_lt_of_lt hi
  rw [hindex.offset_append, Nat.mul_comm (s.offset index), Nat.mul_add_div hpositive,
    Nat.mul_add_mod, Nat.div_eq_of_lt hi, Nat.mod_eq_of_lt hi, Nat.add_zero,
    List.getD_eq_getElem?_getD, hk, Option.getD_some]

/-- The one row that was gathered as a list is the row that is gathered alone. -/
theorem withShape_gathered (n : Nat) (rows : List Nat) :
    (c.gathered [1] n rows).withShape [n] = c.gathered [] n rows := by
  cases c with
  | tensor t =>
    simp [gathered, pick, withShape, Tensor.pick, Tensor.build, Tensor.withShape, Shape.size]
  | carried c =>
    simp [gathered, pick, withShape, CarriedItems.pick, CarriedItems.withShape, Shape.size]

end Contents

end DataParallel

import DataParallel.Proofs.Tensor.Single
import DataParallel.Proofs.Tensor.Strided
import DataParallel.Tensor.Contents
import DataParallel.Tensor.Literal

/-!
# Members and slices

An index with a position for each dimension leads to a member of nested sequences, and to the
element of a tensor at the same place in row-major order.  An index for the first dimensions only
leads to a slice in the dimensions that are left, whatever the items are.
-/

namespace DataParallel

/-! ## Indices -/

namespace Shape

/-- The index has a position in each dimension. -/
def Contains : Shape → List Nat → Prop
  | [], [] => True
  | d :: s, i :: index => i < d ∧ Contains s index
  | _, _ => False

/-- The number of elements that stand before those to which an index leads. -/
def offset : Shape → List Nat → Nat
  | _ :: s, i :: index => i * size s + offset s index
  | _, _ => 0

theorem Contains.length_eq {s : Shape} {index : List Nat} (h : s.Contains index) :
    index.length = s.length := by
  induction s generalizing index with
  | nil => cases index <;> first | rfl | cases h
  | cons d s ih =>
    cases index with
    | nil => cases h
    | cons i index => exact congrArg Nat.succ (ih h.2)

theorem Contains.offset_lt {s : Shape} {index : List Nat} (h : s.Contains index) :
    s.offset index < s.size := by
  induction s generalizing index with
  | nil => cases index <;> exact Nat.one_pos
  | cons d s ih =>
    cases index with
    | nil => cases h
    | cons i index =>
      calc i * size s + offset s index < i * size s + size s := Nat.add_lt_add_left (ih h.2) _
        _ = (i + 1) * size s := (Nat.succ_mul i (size s)).symm
        _ ≤ d * size s := Nat.mul_le_mul_right _ h.1

theorem size_append (r s : Shape) : (r ++ s).size = r.size * s.size := by
  induction r with
  | nil => exact (Nat.one_mul s.size).symm
  | cons d r ih => rw [List.cons_append, size, size, ih, Nat.mul_assoc]

/-- Each element stands for a block if the shape goes on. -/
theorem Contains.offset_append {s : Shape} {index : List Nat} (h : s.Contains index)
    (rest : Shape) : offset (s ++ rest) index = s.offset index * rest.size := by
  induction s generalizing index with
  | nil =>
    cases index with
    | nil => cases rest <;> exact (Nat.zero_mul _).symm
    | cons i index => cases h
  | cons d s ih =>
    cases index with
    | nil => cases h
    | cons i index =>
      rw [List.cons_append, offset, offset, ih h.2, size_append, Nat.add_mul, Nat.mul_assoc]

end Shape

/-! ## Nested sequences -/

namespace Value

/-- The members of a sequence. -/
def sequence? : Value → Option (List Value)
  | list vs => some vs
  | tuple vs => some vs
  | _ => none

/-- The member to which an index leads. -/
def member? : List Nat → Value → Option Value
  | [], v => some v
  | i :: index, v => (v.sequence?.bind fun vs => vs[i]?).bind (member? index)

/-- Sequences that are nested in the same way everywhere: all members of a sequence are of one
shape, and an empty sequence ends the shape. -/
def Rectangular : Shape → Value → Prop
  | [], v => v.sequence? = none
  | d :: s, v => ∃ vs, v.sequence? = some vs ∧ vs.length = d ∧
      (∀ member ∈ vs, Rectangular s member) ∧ (vs = [] → s = [])

end Value

namespace Tensor

theorem literalShape_of_none {v : Value} (h : v.sequence? = none) : literalShape v = .ok [] := by
  cases v <;> first | rfl | cases h

theorem literalShape_of_some {v : Value} {vs : List Value} (h : v.sequence? = some vs) :
    literalShape v = do return vs.length :: (← commonShape vs) := by
  cases v <;> cases h <;> rfl

theorem leaves_of_none {v : Value} (h : v.sequence? = none) : leaves v = [v] := by
  cases v <;> first | rfl | cases h

theorem leaves_of_some {v : Value} {vs : List Value} (h : v.sequence? = some vs) :
    leaves v = leavesOf vs := by
  cases v <;> cases h <;> rfl

theorem commonShape_eq_ok {vs : List Value} {s : Shape} : commonShape vs = .ok s ↔
    (∀ member ∈ vs, literalShape member = .ok s) ∧ (vs = [] → s = []) := by
  induction vs with
  | nil =>
    rw [commonShape, Except.ok.injEq]
    exact ⟨fun h => ⟨List.forall_mem_nil _, fun _ => h.symm⟩, fun h => (h.2 rfl).symm⟩
  | cons v vs ih =>
    cases vs with
    | nil =>
      rw [commonShape]
      exact ⟨fun h => ⟨List.forall_mem_singleton.mpr h, nofun⟩,
        fun h => h.1 v List.mem_cons_self⟩
    | cons w vs =>
      rw [commonShape, List.forall_mem_cons]
      · constructor
        · intro h
          obtain ⟨shape, hshape, h⟩ := exists_of_bind_eq_ok h
          obtain ⟨common, hcommon, h⟩ := exists_of_bind_eq_ok h
          split at h
          · next hsame =>
            obtain rfl := Except.ok.inj h
            rw [hsame] at hcommon
            exact ⟨⟨hshape, (ih.mp hcommon).1⟩, nofun⟩
          · cases h
        · rintro ⟨⟨hfirst, hrest⟩, -⟩
          rw [hfirst, ok_bind, ih.mpr ⟨hrest, nofun⟩, ok_bind, if_pos rfl]
          rfl
      · exact List.cons_ne_nil w vs

/-- A nested value has the shape in which it is rectangular, and none if it is ragged. -/
theorem literalShape_eq_ok {v : Value} {s : Shape} :
    literalShape v = .ok s ↔ v.Rectangular s := by
  induction s generalizing v with
  | nil =>
    cases hv : v.sequence? with
    | none => exact ⟨fun _ => hv, fun _ => literalShape_of_none hv⟩
    | some vs =>
      rw [literalShape_of_some hv, Value.Rectangular, hv]
      refine ⟨fun h => ?_, nofun⟩
      obtain ⟨rest, -, h⟩ := exists_of_bind_eq_ok h
      cases h
  | cons d s ih =>
    constructor
    · intro h
      cases hv : v.sequence? with
      | none =>
        rw [literalShape_of_none hv] at h
        cases h
      | some vs =>
        rw [literalShape_of_some hv] at h
        obtain ⟨rest, hrest, h⟩ := exists_of_bind_eq_ok h
        obtain ⟨rfl, rfl⟩ := List.cons.inj (Except.ok.inj h)
        obtain ⟨hall, hempty⟩ := commonShape_eq_ok.mp hrest
        exact ⟨vs, hv, rfl, fun member hmember => ih.mp (hall member hmember), hempty⟩
    · rintro ⟨vs, hv, rfl, hall, hempty⟩
      have hcommon : commonShape vs = .ok s :=
        commonShape_eq_ok.mpr ⟨fun member hmember => ih.mpr (hall member hmember), hempty⟩
      rw [literalShape_of_some hv, hcommon]
      rfl

/-- Among the leaves of members with equally many of them, each member has a block. -/
theorem getElem?_leavesOf {vs : List Value} {block : Nat}
    (h : ∀ member ∈ vs, (leaves member).length = block) (i : Nat) {j : Nat} (hj : j < block) :
    (leavesOf vs)[i * block + j]? = (vs[i]?).bind fun member => (leaves member)[j]? := by
  induction vs generalizing i with
  | nil => rfl
  | cons v vs ih =>
    rw [List.forall_mem_cons] at h
    rw [leavesOf]
    cases i with
    | zero =>
      rw [Nat.zero_mul, Nat.zero_add, List.getElem?_append_left (h.1 ▸ hj)]
      rfl
    | succ i =>
      have hplace : (i + 1) * block + j = (leaves v).length + (i * block + j) := by
        rw [h.1, Nat.succ_mul]
        omega
      rw [hplace, List.getElem?_append_right (Nat.le_add_right _ _), Nat.add_sub_cancel_left,
        ih h.2]
      rfl

theorem length_leaves {v : Value} {s : Shape} (h : v.Rectangular s) :
    (leaves v).length = s.size := by
  induction s generalizing v with
  | nil =>
    rw [leaves_of_none h]
    rfl
  | cons d s ih =>
    obtain ⟨vs, hv, rfl, hall, -⟩ := h
    rw [leaves_of_some hv, Shape.size]
    clear hv
    induction vs with
    | nil => exact (Nat.zero_mul _).symm
    | cons w vs ihs =>
      rw [List.forall_mem_cons] at hall
      rw [leavesOf, List.length_append, ih hall.1, ihs hall.2, List.length_cons, Nat.succ_mul,
        Nat.add_comm]

/-- The member to which an index leads stands among the leaves at the offset of the index. -/
theorem getElem?_leaves {v : Value} {s : Shape} {index : List Nat} (h : v.Rectangular s)
    (hindex : s.Contains index) : (leaves v)[s.offset index]? = v.member? index := by
  induction s generalizing v index with
  | nil =>
    cases index with
    | nil =>
      rw [leaves_of_none h]
      rfl
    | cons i index => cases hindex
  | cons d s ih =>
    cases index with
    | nil => cases hindex
    | cons i index =>
      obtain ⟨vs, hv, rfl, hall, -⟩ := h
      have hblock : ∀ member ∈ vs, (leaves member).length = Shape.size s :=
        fun member hmember => length_leaves (hall member hmember)
      have hrest : Shape.offset s index < Shape.size s := Shape.Contains.offset_lt hindex.2
      rw [leaves_of_some hv, Shape.offset, getElem?_leavesOf hblock i hrest, Value.member?, hv,
        Option.bind_some]
      cases hi : vs[i]? with
      | none => rfl
      | some member => exact ih (hall member (List.mem_of_getElem? hi)) hindex.2

end Tensor

/-! ## Items in other places -/

namespace Tensor

theorem cell_pick (t : Tensor) (s : Shape) (f : Nat → Nat) {i : Nat} (hi : i < s.size) :
    (t.pick s f).cell i = t.cell (f i) := by
  rw [cell_eq_getElem _ (by simpa [pick, build] using hi)]
  simp [pick, build]

theorem build_congr {d : Dtype} {s : Shape} {f g : Nat → d.Cell} (h : ∀ i < s.size, f i = g i) :
    build d s f = build d s g := by
  rw [build, build]
  congr 1
  exact List.map_congr_left fun i hi => h i (List.mem_range.mp hi)

theorem pick_shape (t : Tensor) : (t.pick t.shape fun i => i) = t := by
  have hcells : (List.range t.shape.size).map (fun i => t.cell i) = t.cells := by
    refine List.ext_getElem ?_ fun i hi hi' => ?_
    · rw [List.length_map, List.length_range, t.length_cells]
    · rw [List.getElem_map, List.getElem_range, cell_eq_getElem t hi']
  rw [pick, build]
  congr 1

end Tensor

namespace CarriedItems

variable (c : CarriedItems)

@[simp] theorem itemSize_pick (s : Shape) (f : Nat → Nat) : (c.pick s f).itemSize = c.itemSize :=
  rfl

theorem item_pick (s : Shape) (f : Nat → Nat) {i : Nat} (hi : i < s.size) :
    (c.pick s f).item i = c.item (f i) := by
  have hlength (i : Nat) : (c.item (f i)).length = c.itemSize := c.length_item (f i)
  have hrange : i < (List.range s.size).length := by rwa [List.length_range]
  have hpiece : ((c.pick s f).bytes.drop (i * c.itemSize)).take c.itemSize = c.item (f i) := by
    rw [Nat.mul_comm]
    exact (take_drop_flatMap hlength hrange).trans (by rw [List.getElem_range])
  rw [item]
  simp only [itemSize_pick, hpiece, hlength, if_true]

/-- The items one behind the other are all bytes. -/
theorem flatMap_item : ((List.range c.shape.size).flatMap fun i => c.item i) = c.bytes := by
  refine Eq.trans (List.flatMap_congr fun i hi => ?_) (flatMap_range_pieces c.length_bytes)
  have hi := List.mem_range.mp hi
  have hfits : (i + 1) * c.itemSize ≤ c.bytes.length := by
    rw [c.length_bytes]
    exact Nat.mul_le_mul_right _ hi
  have hlength : ((c.bytes.drop (i * c.itemSize)).take c.itemSize).length = c.itemSize := by
    rw [List.length_take, List.length_drop]
    rw [Nat.succ_mul] at hfits
    omega
  rw [item, Nat.mul_comm c.itemSize]
  exact if_pos hlength

end CarriedItems

namespace Contents

variable (c : Contents)

theorem pick_congr {s : Shape} {f g : Nat → Nat} (h : ∀ i < s.size, f i = g i) :
    c.pick s f = c.pick s g := by
  cases c with
  | tensor t =>
    exact congrArg tensor (Tensor.build_congr fun i hi => congrArg t.cell (h i hi))
  | carried c =>
    refine congrArg carried (CarriedItems.ext rfl rfl rfl (List.flatMap_congr fun i hi => ?_))
    rw [h i (List.mem_range.mp hi)]

/-- Items that were picked are picked from where they came. -/
theorem pick_pick {r s : Shape} (f : Nat → Nat) {g : Nat → Nat} (h : ∀ i < s.size, g i < r.size) :
    (c.pick r f).pick s g = c.pick s fun i => f (g i) := by
  cases c with
  | tensor t =>
    exact congrArg tensor (Tensor.build_congr fun i hi => t.cell_pick r f (h i hi))
  | carried c =>
    refine congrArg carried (CarriedItems.ext rfl rfl rfl (List.flatMap_congr fun i hi => ?_))
    exact c.item_pick r f (h i (List.mem_range.mp hi))

theorem pick_shape : (c.pick c.shape fun i => i) = c := by
  cases c with
  | tensor t => exact congrArg tensor t.pick_shape
  | carried c => exact congrArg carried (CarriedItems.ext rfl rfl rfl c.flatMap_item)

/-! ## Slices -/

/-- The items to which an index for the first dimensions leads, in the others. -/
def slice (c : Contents) (index : List Nat) : Contents :=
  c.pick (c.shape.drop index.length) fun i => Shape.offset c.shape index + i

@[simp] theorem slice_nil : c.slice [] = c := by
  have hoffset : Shape.offset c.shape [] = 0 := by
    cases c.shape <;> rfl
  rw [slice, hoffset]
  exact (c.pick_congr fun i _ => Nat.zero_add i).trans c.pick_shape

end Contents

end DataParallel

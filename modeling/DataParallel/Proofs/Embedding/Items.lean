import DataParallel.Proofs.Embedding.Indices
import DataParallel.Proofs.Value.Equality

/-!
# Items and their rows

An embedding knows the items of its collection.  Among the places of an item in the collection the
last one decides on its row, because numbering an item again overwrites its row, and items that
are the same share their places.  Nested items are mapped leaf by leaf: a tuple that is known and
everything that is no sequence are leaves, and the first leaf without a row ends the mapping.
-/

namespace DataParallel

/-! ## Entries of equal keys -/

namespace Value

/-- Equal keys are equal to the same keys. -/
theorem same_iff_same {a b v : Value} (ha : a.isKey = true) (hb : b.isKey = true)
    (hv : v.isKey = true) (h : a.same b = true) : v.same a = true ↔ v.same b = true := by
  rw [same_iff_form hv ha, same_iff_form hv hb, (same_iff_form ha hb).mp h]

theorem same_symm {a b : Value} (ha : a.isKey = true) (hb : b.isKey = true)
    (h : a.same b = true) : b.same a = true :=
  (same_iff_form hb ha).mpr ((same_iff_form ha hb).mp h).symm

theorem find?_cons {α : Type} (v k : Value) (a : α) (es : List (Value × α)) :
    find? v ((k, a) :: es) = if v.same k then some a else find? v es := by
  rw [find?, List.find?_cons]
  cases v.same k <;> rfl

/-- Setting the entry of a key sets it for the keys that are equal to it, and for no other. -/
theorem find?_insert {α : Type} {v k : Value} (hv : v.isKey = true) (hk : k.isKey = true) (a : α)
    {es : List (Value × α)} (hes : ∀ e ∈ es, e.1.isKey = true) :
    find? v (insert k a es) = if v.same k then some a else find? v es := by
  induction es with
  | nil => exact find?_cons v k a []
  | cons e es ih =>
    obtain ⟨l, b⟩ := e
    have hl : l.isKey = true := hes (l, b) List.mem_cons_self
    rw [insert]
    split
    · next hsame =>
      have hiff := same_iff_same hk hl hv hsame
      rw [find?_cons, find?_cons]
      by_cases hvk : v.same k = true
      · rw [if_pos hvk, if_pos (hiff.mp hvk)]
      · have hvl : ¬ v.same l = true := mt hiff.mpr hvk
        rw [if_neg hvk, if_neg hvl, if_neg hvl]
    · next hother =>
      rw [find?_cons, find?_cons, ih fun e he => hes e (List.mem_cons_of_mem _ he)]
      by_cases hvl : v.same l = true
      · have hvk : ¬ v.same k = true := fun hvk =>
          hother ((same_iff_same hv hl hk hvl).mp (same_symm hv hk hvk))
        rw [if_pos hvl, if_neg hvk, if_pos hvl]
      · rw [if_neg hvl, if_neg hvl]

theorem isKey_of_mem_insert {α : Type} {k : Value} (hk : k.isKey = true) {a : α}
    {es : List (Value × α)} (hes : ∀ e ∈ es, e.1.isKey = true) :
    ∀ e ∈ insert k a es, e.1.isKey = true := by
  induction es with
  | nil =>
    intro e he
    rw [insert, List.mem_singleton] at he
    rwa [he]
  | cons first es ih =>
    obtain ⟨l, b⟩ := first
    have hl : l.isKey = true := hes (l, b) List.mem_cons_self
    have hrest : ∀ e ∈ es, e.1.isKey = true := fun e he => hes e (List.mem_cons_of_mem _ he)
    rw [insert]
    split
    · exact List.forall_mem_cons.mpr ⟨hl, hrest⟩
    · exact List.forall_mem_cons.mpr ⟨hl, ih hrest⟩

/-- The last place at which items hold a value. -/
structure IsLast (v : Value) (items : List Value) (place : Nat) : Prop where
  here : ∃ item, items[place]? = some item ∧ v.same item = true
  after : ∀ later item, place < later → items[later]? = some item → v.same item = false

theorem IsLast.lt {v : Value} {items : List Value} {place : Nat} (h : v.IsLast items place) :
    place < items.length := by
  obtain ⟨item, hitem, -⟩ := h.here
  exact (List.getElem?_eq_some_iff.mp hitem).1

theorem IsLast.cons {v : Value} {items : List Value} {place : Nat} (h : v.IsLast items place)
    (first : Value) : v.IsLast (first :: items) (place + 1) := by
  refine ⟨h.here, fun later item hlt hitem => ?_⟩
  obtain ⟨later, rfl⟩ : ∃ l, later = l + 1 := ⟨later - 1, by omega⟩
  exact h.after later item (by omega) hitem

theorem IsLast.first {v first : Value} {items : List Value} (hfirst : v.same first = true)
    (hrest : ∀ item ∈ items, v.same item = false) : v.IsLast (first :: items) 0 := by
  refine ⟨⟨first, rfl, hfirst⟩, fun later item hlt hitem => ?_⟩
  obtain ⟨later, rfl⟩ : ∃ l, later = l + 1 := ⟨later - 1, by omega⟩
  exact hrest item (List.mem_of_getElem? hitem)

theorem isKey_of_mem {items : List Value} (h : areKeys items = true) :
    ∀ item ∈ items, item.isKey = true := by
  induction items with
  | nil => exact List.forall_mem_nil _
  | cons first items ih =>
    rw [areKeys, Bool.and_eq_true] at h
    exact List.forall_mem_cons.mpr ⟨h.1, ih h.2⟩

/-- Values have their last place in common if and only if they are the same. -/
theorem IsLast.eq_iff {a b : Value} {items : List Value} {i j : Nat} (ha : a.isKey = true)
    (hb : b.isKey = true) (hitems : areKeys items = true) (hi : a.IsLast items i)
    (hj : b.IsLast items j) : i = j ↔ a.same b = true := by
  obtain ⟨item, hitem, hai⟩ := hi.here
  obtain ⟨other, hother, hbj⟩ := hj.here
  have hikey := isKey_of_mem hitems item (List.mem_of_getElem? hitem)
  have hjkey := isKey_of_mem hitems other (List.mem_of_getElem? hother)
  constructor
  · rintro rfl
    obtain rfl : item = other := Option.some.inj (hitem.symm.trans hother)
    exact (same_iff_same hb hikey ha hbj).mpr hai
  · intro h
    have hbi : b.same item = true :=
      (same_iff_same ha hikey hb hai).mp (same_symm ha hb h)
    have haj : a.same other = true := (same_iff_same hb hjkey ha hbj).mp h
    rcases Nat.lt_trichotomy i j with hlt | heq | hgt
    · rw [hi.after j other hlt hother] at haj
      cases haj
    · exact heq
    · rw [hj.after i item hgt hitem] at hbi
      cases hbi

end Value

/-! ## Numbering -/

namespace EmbeddingConfig

theorem exists_numbered {items : List Value} (h : Value.areKeys items = true) (row : Nat)
    (rows : List (Value × Nat)) : ∃ numbers, numbered row items rows = .ok numbers := by
  induction items generalizing row rows with
  | nil => exact ⟨rows, rfl⟩
  | cons item rest ih =>
    rw [Value.areKeys, Bool.and_eq_true] at h
    rw [numbered, if_pos h.1]
    exact ih h.2 _ _

/-- Of the rows that an item is numbered with, the last one is kept. -/
theorem find?_numbered {items : List Value} {v : Value} (hv : v.isKey = true)
    (hitems : Value.areKeys items = true) {row : Nat} {rows numbers : List (Value × Nat)}
    (hrows : ∀ entry ∈ rows, entry.1.isKey = true)
    (h : numbered row items rows = .ok numbers) :
    (∃ place, v.IsLast items place ∧ Value.find? v numbers = some (row + place)) ∨
      (∀ item ∈ items, v.same item = false) ∧ Value.find? v numbers = Value.find? v rows := by
  induction items generalizing row rows with
  | nil =>
    rw [numbered] at h
    exact Or.inr ⟨List.forall_mem_nil _, by rw [Except.ok.inj h]⟩
  | cons item rest ih =>
    rw [Value.areKeys, Bool.and_eq_true] at hitems
    rw [numbered, if_pos hitems.1] at h
    rcases ih hitems.2 (Value.isKey_of_mem_insert hitems.1 hrows) h with
      ⟨place, hplace, hfind⟩ | ⟨hnone, hfind⟩
    · refine Or.inl ⟨place + 1, hplace.cons item, ?_⟩
      rw [hfind, Nat.add_right_comm, Nat.add_assoc]
    · rw [Value.find?_insert hv hitems.1 row hrows] at hfind
      by_cases hsame : v.same item = true
      · rw [if_pos hsame] at hfind
        exact Or.inl ⟨0, Value.IsLast.first hsame hnone, hfind⟩
      · rw [if_neg hsame] at hfind
        exact Or.inr ⟨List.forall_mem_cons.mpr ⟨Bool.eq_false_iff.mpr hsame, hnone⟩, hfind⟩

end EmbeddingConfig

/-! ## Nesting -/

/-- Nested values: leaves in rows, to any depth. -/
inductive Nest where
  | leaf (v : Value)
  | row (members : List Nest)

namespace Nest

mutual

/-- The leaves from left to right. -/
def leaves : Nest → List Value
  | leaf v => [v]
  | row members => leavesOf members
termination_by structural nest => nest

/-- The leaves of all members from left to right. -/
def leavesOf : List Nest → List Value
  | [] => []
  | nest :: rest => leaves nest ++ leavesOf rest
termination_by structural members => members

end

mutual

/-- Lists in the same nesting, with an index for each leaf. -/
def indices (rowOf : Value → Nat) : Nest → Value
  | leaf v => .int (rowOf v)
  | row members => .list (indicesOf rowOf members)
termination_by structural nest => nest

/-- The indices of all members. -/
def indicesOf (rowOf : Value → Nat) : List Nest → List Value
  | [] => []
  | nest :: rest => indices rowOf nest :: indicesOf rowOf rest
termination_by structural members => members

end

end Nest

namespace Value

/-- Whether a value is one of the items. -/
def isOneOf (items : List Value) (v : Value) : Bool := v.isKey && items.any v.same

mutual

/-- The nesting of a value: sequences are rows of their members, save that a tuple which is one of
the items is a leaf; a host array is what its rows are. -/
def nest (items : List Value) : Value → Nest
  | array rows => nest items rows
  | list vs => .row (nestAll items vs)
  | tuple vs => if isOneOf items (tuple vs) then .leaf (tuple vs) else .row (nestAll items vs)
  | v => .leaf v
termination_by structural v => v

/-- The nestings of values. -/
def nestAll (items : List Value) : List Value → List Nest
  | [] => []
  | v :: vs => nest items v :: nestAll items vs
termination_by structural vs => vs

end

end Value

namespace Embedding

/-! ## Mapping -/

/-- The row to which a leaf is mapped. -/
def rowOf (e : Embedding) (leaf : Value) : Nat := (e.row? leaf).getD defaultRow

/-- The embedding has rows for the items, and for no other value. -/
def Knows (items : List Value) (e : Embedding) : Prop :=
  ∀ v, (e.row? v).isSome = v.isOneOf items

theorem Knows.row?_of_known {e : Embedding} {items : List Value} (h : e.Knows items) {v : Value}
    (hv : v.isOneOf items = true) : e.row? v = some (e.rowOf v) := by
  obtain ⟨row, hrow⟩ := Option.isSome_iff_exists.mp ((h v).trans hv)
  rw [rowOf, hrow, Option.getD_some]

theorem Knows.row?_of_unknown {e : Embedding} {items : List Value} (h : e.Knows items)
    {v : Value} (hv : v.isOneOf items = false) : e.row? v = none :=
  Option.isSome_eq_false_iff.mp ((h v).trans hv) |> Option.isNone_iff_eq_none.mp

theorem rowOf_of_none {e : Embedding} {v : Value} (h : e.row? v = none) :
    e.rowOf v = defaultRow := by
  rw [rowOf, h, Option.getD_none]

/-- The leaf that ends a mapping: the first one that is unknown, if no row is left for it. -/
def missing? (e : Embedding) (items : List Value) (leaves : List Value) : Option Value :=
  if e.useDefault.truthy then none else leaves.find? fun leaf => !leaf.isOneOf items

/-- What the leaves are mapped to, unless one of them ends the mapping. -/
def unlessMissing {α : Type} (e : Embedding) (items leaves : List Value) (a : α) :
    Except Fault α :=
  match e.missing? items leaves with
  | none => .ok a
  | some leaf => .error (.itemNotFound leaf)

theorem missing?_of_known {items leaves : List Value} (e : Embedding)
    (h : ∀ leaf ∈ leaves, leaf.isOneOf items = true) : e.missing? items leaves = none := by
  rw [missing?]
  split
  · rfl
  · rw [List.find?_eq_none]
    intro leaf hleaf
    rw [h leaf hleaf]
    exact nofun

theorem missing?_of_default {e : Embedding} (h : e.useDefault.truthy = true)
    (items leaves : List Value) : e.missing? items leaves = none :=
  if_pos h

theorem missing?_of_strict {e : Embedding} (h : e.useDefault.truthy = false)
    (items leaves : List Value) :
    e.missing? items leaves = leaves.find? fun leaf => !leaf.isOneOf items :=
  if_neg (Bool.eq_false_iff.mp h)

theorem unlessMissing_of_none {α : Type} {e : Embedding} {items leaves : List Value} (a : α)
    (h : e.missing? items leaves = none) : e.unlessMissing items leaves a = .ok a := by
  rw [unlessMissing, h]

theorem unlessMissing_of_some {α : Type} {e : Embedding} {items leaves : List Value}
    {leaf : Value} (a : α) (h : e.missing? items leaves = some leaf) :
    e.unlessMissing items leaves a = .error (.itemNotFound leaf) := by
  rw [unlessMissing, h]

theorem unlessMissing_append {α β γ : Type} (e : Embedding) (items first second : List Value)
    (f : α → β → γ) (a : α) (b : β) :
    (e.unlessMissing items first a >>= fun x => e.unlessMissing items second b >>= fun y =>
      .ok (f x y)) = e.unlessMissing items (first ++ second) (f a b) := by
  have happend : e.missing? items (first ++ second) =
      (e.missing? items first).or (e.missing? items second) := by
    rw [missing?, missing?, missing?]
    split
    · rfl
    · exact List.find?_append
  rw [unlessMissing, unlessMissing, unlessMissing, happend]
  cases e.missing? items first with
  | none => cases e.missing? items second <;> rfl
  | some leaf => rfl

theorem unlessMissing_map {α β : Type} (e : Embedding) (items leaves : List Value)
    (f : α → β) (a : α) :
    (e.unlessMissing items leaves a >>= fun x => .ok (f x)) =
      e.unlessMissing items leaves (f a) := by
  rw [unlessMissing, unlessMissing]
  cases e.missing? items leaves <;> rfl

variable {e : Embedding} {items : List Value}

theorem nest_leaf {v : Value} (hv : v.isNested = false) : v.nest items = .leaf v := by
  cases v <;> first | rfl | cases hv

theorem embed_leaf (h : e.Knows items) {v : Value} (hv : v.isNested = false) :
    e.embed v =
      e.unlessMissing items (v.nest items).leaves ((v.nest items).indices e.rowOf) := by
  rw [nest_leaf hv, Nest.leaves, Nest.indices, embed]
  rotate_left
  · rintro rows rfl
    cases hv
  · rintro vs rfl
    cases hv
  · rintro vs rfl
    cases hv
  cases hknown : v.isOneOf items with
  | true =>
    have hfound : e.missing? items [v] = none :=
      missing?_of_known e (List.forall_mem_singleton.mpr hknown)
    rw [h.row?_of_known hknown, unlessMissing_of_none _ hfound]
  | false =>
    have hnone := h.row?_of_unknown hknown
    rw [hnone, rowOf_of_none hnone]
    cases huse : e.useDefault.truthy with
    | true =>
      rw [unlessMissing_of_none _ (missing?_of_default huse items [v])]
      exact if_pos huse
    | false =>
      have hmissing : e.missing? items [v] = some v := by
        rw [missing?_of_strict huse, List.find?_singleton, hknown]
        rfl
      rw [unlessMissing_of_some _ hmissing]
      exact if_neg (Bool.eq_false_iff.mp huse)

mutual

/-- By induction on the value: its leaves are mapped from left to right. -/
theorem embed_eq (h : e.Knows items) : ∀ v : Value,
    e.embed v = e.unlessMissing items (v.nest items).leaves ((v.nest items).indices e.rowOf)
  | .array rows => by
    rw [embed, Value.nest]
    exact embed_eq h rows
  | .list vs => by
    rw [embed, Value.nest, Nest.leaves, Nest.indices, embedAll_eq h vs]
    exact unlessMissing_map ..
  | .tuple vs => by
    rw [embed, Value.nest]
    cases hknown : (Value.tuple vs).isOneOf items with
    | true =>
      have hfound : e.missing? items [.tuple vs] = none :=
        missing?_of_known e (List.forall_mem_singleton.mpr hknown)
      rw [h.row?_of_known hknown, if_pos rfl, Nest.leaves, Nest.indices,
        unlessMissing_of_none _ hfound]
    | false =>
      rw [h.row?_of_unknown hknown, if_neg nofun, Nest.leaves, Nest.indices, embedAll_eq h vs]
      exact unlessMissing_map ..
  | .null => embed_leaf h rfl
  | .bool _ => embed_leaf h rfl
  | .int _ => embed_leaf h rfl
  | .float _ => embed_leaf h rfl
  | .text _ => embed_leaf h rfl
  | .broken _ => embed_leaf h rfl
  | .bytes _ => embed_leaf h rfl
  | .record _ => embed_leaf h rfl
  | .extension .. => embed_leaf h rfl
  | .timestamp .. => embed_leaf h rfl

theorem embedAll_eq (h : e.Knows items) : ∀ vs : List Value,
    e.embedAll vs = e.unlessMissing items (Nest.leavesOf (Value.nestAll items vs))
      (Nest.indicesOf e.rowOf (Value.nestAll items vs))
  | [] => by
    rw [embedAll, Value.nestAll, Nest.leavesOf, Nest.indicesOf,
      unlessMissing_of_none _ (missing?_of_known e (List.forall_mem_nil _))]
  | v :: vs => by
    rw [embedAll, Value.nestAll, Nest.leavesOf, Nest.indicesOf, embed_eq h v, embedAll_eq h vs]
    exact unlessMissing_append e items _ _ List.cons _ _

end

mutual

/-- By induction on the nesting: if the leaves have rows of a weight, the indices are in it. -/
theorem below_indices {rowOf : Value → Nat} {count : Nat} : ∀ nest : Nest,
    (∀ leaf ∈ nest.leaves, rowOf leaf < count) → (nest.indices rowOf).Below count
  | .leaf v, h => below_int (h v (List.mem_singleton_self v))
  | .row members, h => below_list (below_indicesOf members h)

theorem below_indicesOf {rowOf : Value → Nat} {count : Nat} : ∀ members : List Nest,
    (∀ leaf ∈ Nest.leavesOf members, rowOf leaf < count) →
      ∀ leaf ∈ Tensor.leavesOf (Nest.indicesOf rowOf members), ∃ k : Nat, leaf = .int k ∧ k < count
  | [], _ => by
    intro leaf hleaf
    cases hleaf
  | nest :: members, h => by
    rw [Nest.leavesOf, List.forall_mem_append] at h
    rw [Nest.indicesOf, Tensor.leavesOf, List.forall_mem_append]
    exact ⟨below_indices nest h.1, below_indicesOf members h.2⟩

end

end Embedding

/-! ## What a configuration describes -/

namespace Embedding

/-- The embedding maps nested values by the rows of the leaves: an item has the row of its last
place, behind the row for unknown items, and the first leaf without a row is reported. -/
structure Maps (c : EmbeddingConfig) (items : List Value) (e : Embedding) : Prop where
  rowCount : e.rowCount = c.firstRow + items.length
  last : ∀ v, v.isOneOf items = true →
    ∃ place, v.IsLast items place ∧ e.rowOf v = c.firstRow + place
  unknown : ∀ v, v.isOneOf items = false → e.rowOf v = defaultRow
  distinct : ∀ v w, v.isOneOf items = true → w.isOneOf items = true →
    (e.rowOf v = e.rowOf w ↔ v.same w = true)
  reserved : c.useDefault.truthy = true → ∀ v, v.isOneOf items = true → e.rowOf v ≠ defaultRow
  embed_ok : ∀ v, (c.useDefault.truthy = true ∨
      ∀ leaf ∈ (v.nest items).leaves, leaf.isOneOf items = true) →
    e.embed v = .ok ((v.nest items).indices e.rowOf)
  embed_error : c.useDefault.truthy = false → ∀ v leaf,
    (e.embed v = .error (.itemNotFound leaf) ↔
      (v.nest items).leaves.find? (fun leaf => !leaf.isOneOf items) = some leaf)
  below : ∀ v index, e.embed v = .ok index → index.Below e.rowCount

end Embedding

namespace EmbeddingConfig

variable {c : EmbeddingConfig} {items : List Value} {t : ItemType} {e : Embedding}

/-- A configuration that is valid and whose items can be keys describes an embedding. -/
theorem exists_build (hvalid : c.validate = .ok t) (hitems : c.items.items = .ok items)
    (hkeys : Value.areKeys items = true) (id : String) :
    ∃ e, c.build id = .ok e ∧ e.useDefault = c.useDefault ∧
      e.rowCount = c.firstRow + items.length ∧ numbered c.firstRow items [] = .ok e.rows := by
  obtain ⟨rows, hrows⟩ := exists_numbered hkeys c.firstRow []
  refine ⟨⟨c.size, c.useDefault, t, rows, c.firstRow + items.length,
    Parameter.new id (.text "embedding")⟩, ?_, rfl, rfl, hrows⟩
  rw [build, hvalid, ok_bind, hitems, ok_bind, hrows, ok_bind]
  rfl

section Numbered

variable (hkeys : Value.areKeys items = true)
  (hrows : numbered c.firstRow items [] = .ok e.rows)

include hkeys hrows

theorem row?_cases (v : Value) :
    (v.isOneOf items = true ∧
      ∃ place, v.IsLast items place ∧ e.row? v = some (c.firstRow + place)) ∨
      (v.isOneOf items = false ∧ e.row? v = none) := by
  rw [Value.isOneOf, Embedding.row?]
  cases hv : v.isKey with
  | false => exact Or.inr ⟨rfl, rfl⟩
  | true =>
    rw [Bool.true_and, if_pos rfl]
    rcases find?_numbered hv hkeys (List.forall_mem_nil _) hrows with
      ⟨place, hplace, hfind⟩ | ⟨hnone, hfind⟩
    · obtain ⟨item, hitem, hsame⟩ := hplace.here
      exact Or.inl ⟨List.any_eq_true.mpr ⟨item, List.mem_of_getElem? hitem, hsame⟩,
        place, hplace, hfind⟩
    · refine Or.inr ⟨?_, hfind⟩
      rw [List.any_eq_false]
      exact fun item hitem => Bool.eq_false_iff.mp (hnone item hitem)

theorem knows_of_numbered : e.Knows items := by
  intro v
  rcases row?_cases hkeys hrows v with ⟨hknown, place, -, hrow⟩ | ⟨hunknown, hrow⟩
  · rw [hknown, hrow, Option.isSome_some]
  · rw [hunknown, hrow, Option.isSome_none]

theorem exists_last {v : Value} (hv : v.isOneOf items = true) :
    ∃ place, v.IsLast items place ∧ e.rowOf v = c.firstRow + place := by
  rcases row?_cases hkeys hrows v with ⟨-, place, hplace, hrow⟩ | ⟨hunknown, -⟩
  · exact ⟨place, hplace, by rw [Embedding.rowOf, hrow, Option.getD_some]⟩
  · rw [hv] at hunknown
    cases hunknown

/-- Items share a row if and only if they are the same. -/
theorem rowOf_eq_iff {v w : Value} (hv : v.isOneOf items = true) (hw : w.isOneOf items = true) :
    e.rowOf v = e.rowOf w ↔ v.same w = true := by
  obtain ⟨i, hi, hvi⟩ := exists_last hkeys hrows hv
  obtain ⟨j, hj, hwj⟩ := exists_last hkeys hrows hw
  rw [Value.isOneOf, Bool.and_eq_true] at hv hw
  rw [hvi, hwj, Nat.add_left_cancel_iff]
  exact hi.eq_iff hv.1 hw.1 hkeys hj

/-- A leaf that is mapped has a row of the weight. -/
theorem rowOf_lt (hcount : e.rowCount = c.firstRow + items.length) {v : Value}
    (hv : c.useDefault.truthy = true ∨ v.isOneOf items = true) : e.rowOf v < e.rowCount := by
  rw [hcount]
  cases hknown : v.isOneOf items with
  | true =>
    obtain ⟨place, hplace, hrow⟩ := exists_last hkeys hrows hknown
    rw [hrow]
    exact Nat.add_lt_add_left hplace.lt _
  | false =>
    have hunknown := (knows_of_numbered hkeys hrows).row?_of_unknown hknown
    rw [Embedding.rowOf_of_none hunknown, firstRow,
      if_pos (hv.resolve_right (Bool.eq_false_iff.mp hknown)), Embedding.defaultRow]
    omega

end Numbered

/-- The mapping of every embedding: the items have rows of their own, and nested values are mapped
by their leaves. -/
theorem build_maps_items (hvalid : c.validate = .ok t) (hitems : c.items.items = .ok items)
    (hkeys : Value.areKeys items = true) (id : String) :
    ∃ e, c.build id = .ok e ∧ e.Maps c items := by
  obtain ⟨e, hbuild, huse, hcount, hrows⟩ := exists_build hvalid hitems hkeys id
  have hknows := knows_of_numbered hkeys hrows
  refine ⟨e, hbuild, hcount, fun v => exists_last hkeys hrows,
    fun v hv => Embedding.rowOf_of_none (hknows.row?_of_unknown hv),
    fun v w => rowOf_eq_iff hkeys hrows, ?reserved, ?embed_ok, ?embed_error, ?below⟩
  case reserved =>
    intro hdefault v hv
    obtain ⟨place, -, hrow⟩ := exists_last hkeys hrows hv
    rw [hrow, firstRow, if_pos hdefault, Embedding.defaultRow]
    omega
  case embed_ok =>
    intro v hv
    rw [Embedding.embed_eq hknows]
    apply Embedding.unlessMissing_of_none
    rcases hv with hdefault | hall
    · exact Embedding.missing?_of_default (huse ▸ hdefault) _ _
    · exact Embedding.missing?_of_known e hall
  case embed_error =>
    intro hstrict v leaf
    rw [Embedding.embed_eq hknows, Embedding.unlessMissing,
      Embedding.missing?_of_strict (huse ▸ hstrict)]
    cases (v.nest items).leaves.find? fun leaf => !leaf.isOneOf items with
    | none => simp
    | some first => rw [Except.error.injEq, Fault.itemNotFound.injEq, Option.some.injEq]
  case below =>
    intro v index hindex
    rw [Embedding.embed_eq hknows, Embedding.unlessMissing] at hindex
    split at hindex
    · next hnone =>
      obtain rfl := Except.ok.inj hindex
      refine Embedding.below_indices _ fun leaf hleaf => rowOf_lt hkeys hrows hcount ?_
      cases hdefault : c.useDefault.truthy with
      | true => exact Or.inl rfl
      | false =>
        rw [Embedding.missing?_of_strict (huse ▸ hdefault), List.find?_eq_none] at hnone
        refine Or.inr ?_
        have hknown := hnone leaf hleaf
        rwa [Bool.not_eq_true, Bool.not_eq_false'] at hknown
    · cases hindex

/-- Items that come back in other forms: the number one as a float and as a truth value. -/
def repeatedItems : EmbeddingConfig :=
  { EmbeddingConfig.usual with
    items := .list [.int 1, .tuple [.text "a", .int 1], .float 1, .tuple [.text "a", .bool true]]
    size := .int 2 }

theorem build_maps_items_repeated : ∃ e, repeatedItems.build "w" = .ok e ∧
    e.Maps repeatedItems
      [.int 1, .tuple [.text "a", .int 1], .float 1, .tuple [.text "a", .bool true]] :=
  build_maps_items (t := .number .float32) rfl rfl rfl "w"

end EmbeddingConfig

end DataParallel

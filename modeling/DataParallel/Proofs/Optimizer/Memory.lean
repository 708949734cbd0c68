import DataParallel.Optimizer.Memory
import DataParallel.Proofs.Optimizer.Restoring
import DataParallel.Proofs.Pool.Lookup
import Mathlib.Data.List.Nodup

/-!
# Who writes where

Every address belongs to one optimizer or snapshot at most.  Whatever is done with a bench concerns
one of them: it writes at the addresses of this one and at new ones, and so the others stay what
they are.
-/

namespace DataParallel

namespace Memory

/-- There is an array at this address. -/
def Has (mem : Memory) (a : Address) : Prop := a.index < mem.arrays.size

instance (mem : Memory) (a : Address) : Decidable (mem.Has a) :=
  inferInstanceAs (Decidable (_ < _))

section Access

variable {mem : Memory}

theorem read_write (a b : Address) (t : Tensor) :
    (mem.write a t).read b = if a = b ∧ mem.Has b then t else mem.read b := by
  cases a with
  | mk i =>
    cases b with
    | mk j => simp only [read, write, Pool.getD_modify, Address.mk.injEq, Has]

theorem read_place (b : Address) (t : Tensor) :
    (mem.place t).read b = if b = mem.next then t else mem.read b := by
  cases b with
  | mk j => simp only [read, place, Pool.getD_push, next, Address.mk.injEq]

theorem size_write (a : Address) (t : Tensor) :
    (mem.write a t).arrays.size = mem.arrays.size := by
  simp [write]

theorem size_place (t : Tensor) : (mem.place t).arrays.size = mem.arrays.size + 1 := by
  simp [place]

theorem map_fst_load (mem : Memory) (entries : List (String × Address)) :
    (mem.load entries).map Prod.fst = entries.map Prod.fst := by
  simp [load]

/-- Only the addresses that are read matter. -/
theorem load_congr {mem' : Memory} {entries : List (String × Address)}
    (h : ∀ a ∈ entries.map Prod.snd, mem'.read a = mem.read a) :
    mem'.load entries = mem.load entries := by
  rw [load, load]
  apply List.map_congr_left
  intro entry hentry
  rw [h entry.2 (List.mem_map_of_mem hentry)]

end Access

/-! ## One array -/

/-- An array was put at an address, which is the given one or new. -/
structure Puts (mem : Memory) (old : Option Address) (t : Tensor) (a : Address) (mem' : Memory) :
    Prop where
  le : mem.arrays.size ≤ mem'.arrays.size
  has : mem'.Has a
  read : mem'.read a = t
  kept : ∀ b, mem.Has b → b ≠ a → mem'.read b = mem.read b
  whose : old = some a ∨ ¬mem.Has a

theorem puts_put {mem : Memory} {old : Option Address} (hold : ∀ a, old = some a → mem.Has a)
    (t : Tensor) : Puts mem old t (mem.put old t).1 (mem.put old t).2 := by
  cases old with
  | some a =>
    have ha : mem.Has a := hold a rfl
    rw [put]
    constructor
    · exact Nat.le_of_eq (size_write a t).symm
    · rw [Has, size_write]
      exact ha
    · rw [read_write, if_pos ⟨rfl, ha⟩]
    · intro b _ hb
      rw [read_write, if_neg fun h => hb h.1.symm]
    · exact Or.inl rfl
  | none =>
    rw [put]
    constructor
    · rw [size_place]
      exact Nat.le_succ _
    · rw [Has, size_place]
      exact Nat.lt_succ_self _
    · rw [read_place, if_pos rfl]
    · intro b _ hb
      rw [read_place, if_neg hb]
    · exact Or.inr (Nat.lt_irrefl _)

/-! ## All arrays -/

/-- Arrays were put at addresses of their own, each where one of its name lay or at a new one. -/
structure Stores (mem : Memory) (old : List (String × Address)) (new : List (String × Tensor))
    (entries : List (String × Address)) (mem' : Memory) : Prop where
  le : mem.arrays.size ≤ mem'.arrays.size
  load : mem'.load entries = new
  has : ∀ a ∈ entries.map Prod.snd, mem'.Has a
  nodup : (entries.map Prod.snd).Nodup
  kept : ∀ b, mem.Has b → b ∉ entries.map Prod.snd → mem'.read b = mem.read b
  whose : ∀ entry ∈ entries, old.lookup entry.1 = some entry.2 ∨ ¬mem.Has entry.2

/-- Under different names lie different addresses. -/
theorem eq_of_lookup {old : List (String × Address)} (hold : (old.map Prod.snd).Nodup)
    {name name' : String} {a : Address} (h : old.lookup name = some a)
    (h' : old.lookup name' = some a) : name = name' :=
  congrArg Prod.fst
    (List.inj_on_of_nodup_map hold (Keyed.mem_of_lookup h) (Keyed.mem_of_lookup h') rfl)

theorem mem_map_of_lookup {old : List (String × Address)} {name : String} {a : Address}
    (h : old.lookup name = some a) : a ∈ old.map Prod.snd :=
  List.mem_map_of_mem (f := Prod.snd) (Keyed.mem_of_lookup h)

theorem stores_store {old : List (String × Address)} (hnodup : (old.map Prod.snd).Nodup)
    (new : List (String × Tensor)) {mem : Memory} (hhas : ∀ a ∈ old.map Prod.snd, mem.Has a)
    (hnew : (new.map Prod.fst).Nodup) :
    Stores mem old new (mem.store old new).1 (mem.store old new).2 := by
  induction new generalizing mem with
  | nil =>
    refine ⟨Nat.le_refl _, rfl, ?_, List.nodup_nil, fun _ _ _ => rfl, ?_⟩
    · intro a ha
      cases ha
    · intro entry hentry
      cases hentry
  | cons entry rest ih =>
    obtain ⟨name, t⟩ := entry
    obtain ⟨hfirst, hrest⟩ := List.nodup_cons.mp hnew
    have hput : Puts mem (old.lookup name) t _ _ :=
      puts_put (fun a ha => hhas a (mem_map_of_lookup ha)) t
    have hstores : Stores (mem.put (old.lookup name) t).2 old rest _ _ :=
      ih (fun a ha => Nat.lt_of_lt_of_le (hhas a ha) hput.le) hrest
    rw [store]
    dsimp only
    revert hput hstores
    generalize (mem.put (old.lookup name) t).1 = a
    generalize (mem.put (old.lookup name) t).2 = mem₁
    generalize (mem₁.store old rest).1 = entries
    generalize (mem₁.store old rest).2 = mem'
    intro hput hstores
    -- The first array is not overwritten by the others, which have other names.
    have hnot : a ∉ entries.map Prod.snd := by
      intro ha
      obtain ⟨⟨name', a'⟩, hentry, rfl⟩ := List.mem_map.mp ha
      have hlookup : old.lookup name' = some a' :=
        (hstores.whose _ hentry).resolve_right fun h => h hput.has
      have hname : name' ∈ rest.map Prod.fst := by
        rw [← hstores.load, map_fst_load]
        exact List.mem_map_of_mem hentry
      cases hput.whose with
      | inl hsome =>
        rw [eq_of_lookup hnodup hsome hlookup] at hfirst
        exact hfirst hname
      | inr hnew => exact hnew (hhas a' (mem_map_of_lookup hlookup))
    constructor
    · exact Nat.le_trans hput.le hstores.le
    · rw [load, List.map_cons, hstores.kept a hput.has hnot, hput.read]
      exact congrArg _ hstores.load
    · intro b hb
      cases List.mem_cons.mp hb with
      | inl hb =>
        rw [hb]
        exact Nat.lt_of_lt_of_le hput.has hstores.le
      | inr hb => exact hstores.has b hb
    · exact List.nodup_cons.mpr ⟨hnot, hstores.nodup⟩
    · intro b hb hother
      obtain ⟨hba, hb'⟩ := List.ne_and_not_mem_of_not_mem_cons hother
      rw [hstores.kept b (Nat.lt_of_lt_of_le hb hput.le) hb', hput.kept b hb hba]
    · intro entry hentry
      cases List.mem_cons.mp hentry with
      | inl hentry =>
        rw [hentry]
        exact hput.whose
      | inr hentry =>
        apply (hstores.whose entry hentry).imp_right
        intro hnot' hhas'
        exact hnot' (Nat.lt_of_lt_of_le hhas' hput.le)

end Memory

namespace Optimizer

namespace Bench

/-! ## Owners -/

/-- Who has arrays. -/
inductive Owner where
  | optimizer (i : Nat)
  | snapshot (j : Nat)

/-- Where the arrays of an owner lie. -/
def arrays (b : Bench) : Owner → List (String × Address)
  | .optimizer i => (b.located i).arrays
  | .snapshot j => (b.recorded j).arrays

/-- Every address is of one owner, and is the place of one array. -/
structure Tidy (b : Bench) : Prop where
  has : ∀ w, ∀ a ∈ (b.arrays w).map Prod.snd, b.memory.Has a
  nodup : ∀ w, ((b.arrays w).map Prod.snd).Nodup
  named : ∀ w, ((b.arrays w).map Prod.fst).Nodup
  apart : ∀ {w w' a}, a ∈ (b.arrays w).map Prod.snd → a ∈ (b.arrays w').map Prod.snd → w = w'

/-- Something was done that concerns one owner: only at its addresses was written, and at new
ones, which are its own now. -/
structure Concerns (w : Owner) (b b' : Bench) : Prop where
  memory_le : b.memory.arrays.size ≤ b'.memory.arrays.size
  optimizers_le : b.optimizers.size ≤ b'.optimizers.size
  snapshots_le : b.snapshots.size ≤ b'.snapshots.size
  has : ∀ a ∈ (b'.arrays w).map Prod.snd, b'.memory.Has a
  nodup : ((b'.arrays w).map Prod.snd).Nodup
  named : ((b'.arrays w).map Prod.fst).Nodup
  whose : ∀ a ∈ (b'.arrays w).map Prod.snd,
    a ∈ (b.arrays w).map Prod.snd ∨ ¬b.memory.Has a
  kept : ∀ a, b.memory.Has a → a ∉ (b.arrays w).map Prod.snd →
    b'.memory.read a = b.memory.read a
  located : ∀ i, w ≠ .optimizer i → b'.located i = b.located i
  recorded : ∀ j, w ≠ .snapshot j → b'.recorded j = b.recorded j

section Concerns

variable {w w' : Owner} {b b' : Bench}

theorem Concerns.arrays (h : Concerns w b b') (hne : w ≠ w') : b'.arrays w' = b.arrays w' := by
  cases w' with
  | optimizer i => exact congrArg Located.arrays (h.located i hne)
  | snapshot j => exact congrArg Located.arrays (h.recorded j hne)

/-- What is of somebody else is not touched. -/
theorem Concerns.load (h : Concerns w b b') (hb : b.Tidy) (hne : w ≠ w') :
    b'.memory.load (b'.arrays w') = b.memory.load (b.arrays w') := by
  rw [h.arrays hne]
  apply Memory.load_congr
  intro a ha
  exact h.kept a (hb.has w' a ha) fun hw => hne (hb.apart hw ha)

theorem Concerns.optimizer (h : Concerns w b b') (hb : b.Tidy) {i : Nat}
    (hne : w ≠ .optimizer i) : b'.optimizer i = b.optimizer i := by
  have hload : b'.memory.load (b'.located i).arrays = b.memory.load (b.located i).arrays :=
    h.load hb hne
  rw [Bench.optimizer, Bench.optimizer, hload, h.located i hne]

theorem Concerns.snapshot (h : Concerns w b b') (hb : b.Tidy) {j : Nat}
    (hne : w ≠ .snapshot j) : b'.snapshot j = b.snapshot j := by
  have hload : b'.memory.load (b'.recorded j).arrays = b.memory.load (b.recorded j).arrays :=
    h.load hb hne
  rw [Bench.snapshot, Bench.snapshot, hload, h.recorded j hne]

theorem Concerns.tidy (h : Concerns w b b') (hb : b.Tidy) : b'.Tidy := by
  have hother : ∀ {w' a}, w ≠ w' → a ∈ (b'.arrays w').map Prod.snd →
      a ∉ (b'.arrays w).map Prod.snd := by
    intro w' a hne ha hw
    rw [h.arrays hne] at ha
    cases h.whose a hw with
    | inl hold => exact hne (hb.apart hold ha)
    | inr hnew => exact hnew (hb.has w' a ha)
  constructor
  · intro w' a ha
    by_cases hne : w = w'
    · subst hne
      exact h.has a ha
    · rw [h.arrays hne] at ha
      exact Nat.lt_of_lt_of_le (hb.has w' a ha) h.memory_le
  · intro w'
    by_cases hne : w = w'
    · subst hne
      exact h.nodup
    · rw [h.arrays hne]
      exact hb.nodup w'
  · intro w'
    by_cases hne : w = w'
    · subst hne
      exact h.named
    · rw [h.arrays hne]
      exact hb.named w'
  · intro w₁ w₂ a h₁ h₂
    by_cases hne₁ : w = w₁
    · subst hne₁
      by_cases hne₂ : w = w₂
      · exact hne₂
      · exact absurd h₁ (hother hne₂ h₂)
    · by_cases hne₂ : w = w₂
      · subst hne₂
        exact absurd h₂ (hother hne₁ h₁)
      · rw [h.arrays hne₁] at h₁
        rw [h.arrays hne₂] at h₂
        exact hb.apart h₁ h₂

end Concerns

/-! ## What is done with a bench -/

section Changes

variable {b : Bench}

theorem stores_of_tidy (hb : b.Tidy) {w : Owner} {old : List (String × Address)}
    (hold : old = [] ∨ old = b.arrays w) {new : List (String × Tensor)}
    (hnew : (new.map Prod.fst).Nodup) :
    Memory.Stores b.memory old new (b.memory.store old new).1 (b.memory.store old new).2 := by
  cases hold with
  | inl hold =>
    rw [hold]
    apply Memory.stores_store
    · exact List.nodup_nil
    · intro a ha
      cases ha
    · exact hnew
  | inr hold =>
    rw [hold]
    exact Memory.stores_store (hb.nodup w) new (hb.has w) hnew

/-- The arrays of one owner were stored, over its old ones or at new addresses. -/
theorem concerns_of_stores {w : Owner} {b' : Bench} {old entries : List (String × Address)}
    {new : List (String × Tensor)} (hold : old = [] ∨ old = b.arrays w)
    (hstores : Memory.Stores b.memory old new entries b'.memory)
    (hnew : (new.map Prod.fst).Nodup) (harrays : b'.arrays w = entries)
    (hoptimizers : b.optimizers.size ≤ b'.optimizers.size)
    (hsnapshots : b.snapshots.size ≤ b'.snapshots.size)
    (hlocated : ∀ i, w ≠ .optimizer i → b'.located i = b.located i)
    (hrecorded : ∀ j, w ≠ .snapshot j → b'.recorded j = b.recorded j) : Concerns w b b' := by
  have hwhose : ∀ a ∈ entries.map Prod.snd, a ∈ (b.arrays w).map Prod.snd ∨ ¬b.memory.Has a := by
    intro a ha
    obtain ⟨⟨name, a'⟩, hentry, rfl⟩ := List.mem_map.mp ha
    apply (hstores.whose _ hentry).imp_left
    intro hlookup
    cases hold with
    | inl hold =>
      rw [hold] at hlookup
      cases hlookup
    | inr hold =>
      rw [hold] at hlookup
      exact Memory.mem_map_of_lookup hlookup
  constructor
  · exact hstores.le
  · exact hoptimizers
  · exact hsnapshots
  · rw [harrays]
    exact hstores.has
  · rw [harrays]
    exact hstores.nodup
  · have hload : b'.memory.load (b'.arrays w) = new := by
      rw [harrays]
      exact hstores.load
    rw [← Memory.map_fst_load b'.memory, hload]
    exact hnew
  · rw [harrays]
    exact hwhose
  · intro a ha hnot
    apply hstores.kept a ha
    intro hmem
    cases hwhose a hmem with
    | inl hold => exact hnot hold
    | inr hnone => exact hnone ha
  · exact hlocated
  · exact hrecorded

theorem located_settle (i k : Nat) (old : List (String × Address)) (o : Optimizer) :
    (b.settle i old o).located k =
      if i = k ∧ k < b.optimizers.size then
        ⟨{ o with state := [] }, (b.memory.store old o.state).1⟩
      else b.located k := by
  rw [located, settle]
  exact Pool.getD_modify _ _ _ _ _

section Settle

variable {i : Nat} {old : List (String × Address)} {o : Optimizer} (hb : b.Tidy)
  (hold : old = [] ∨ old = (b.located i).arrays) (ho : (o.state.map Prod.fst).Nodup)
  (hi : i < b.optimizers.size)

include hb hold ho hi

theorem concerns_settle : Concerns (.optimizer i) b (b.settle i old o) := by
  apply concerns_of_stores hold (stores_of_tidy hb (w := .optimizer i) hold ho) ho
  · rw [arrays, located_settle, if_pos ⟨rfl, hi⟩]
  · rw [settle]
    simp
  · exact Nat.le_refl _
  · intro k hk
    rw [located_settle, if_neg]
    rintro ⟨rfl, -⟩
    exact hk rfl
  · intro j _
    rfl

theorem optimizer_settle : (b.settle i old o).optimizer i = o := by
  have hstores := stores_of_tidy hb (w := .optimizer i) hold ho
  rw [optimizer, located_settle, if_pos ⟨rfl, hi⟩]
  exact congrArg (fun state => { o with state := state }) hstores.load

end Settle

/-! ### New optimizers and snapshots -/

theorem located_make (o : Optimizer) (k : Nat) :
    (b.make o).located k =
      if k = b.optimizers.size then ⟨{ o with state := [] }, (b.memory.store [] o.state).1⟩
      else b.located k := by
  rw [located, make]
  exact Pool.getD_push _ _ _ _

theorem concerns_make (hb : b.Tidy) {o : Optimizer} (ho : (o.state.map Prod.fst).Nodup) :
    Concerns (.optimizer b.optimizers.size) b (b.make o) := by
  have hstores := stores_of_tidy hb (w := .optimizer b.optimizers.size) (Or.inl rfl) ho
  apply concerns_of_stores (Or.inl rfl) hstores ho
  · rw [arrays, located_make, if_pos rfl]
  · rw [make]
    simp
  · exact Nat.le_refl _
  · intro k hk
    rw [located_make, if_neg]
    rintro rfl
    exact hk rfl
  · intro j _
    rfl

theorem recorded_keep (s : Snapshot) (k : Nat) :
    (b.keep s).recorded k =
      if k = b.snapshots.size then ⟨{ s with state := [] }, (b.memory.store [] s.state).1⟩
      else b.recorded k := by
  rw [recorded, keep]
  exact Pool.getD_push _ _ _ _

theorem concerns_keep (hb : b.Tidy) {s : Snapshot} (hs : (s.state.map Prod.fst).Nodup) :
    Concerns (.snapshot b.snapshots.size) b (b.keep s) := by
  have hstores := stores_of_tidy hb (w := .snapshot b.snapshots.size) (Or.inl rfl) hs
  apply concerns_of_stores (Or.inl rfl) hstores hs
  · rw [arrays, recorded_keep, if_pos rfl]
  · exact Nat.le_refl _
  · rw [keep]
    simp
  · intro k _
    rfl
  · intro j hj
    rw [recorded_keep, if_neg]
    rintro rfl
    exact hj rfl

/-- A snapshot reads what was snapped. -/
theorem snapshot_keep (hb : b.Tidy) {s : Snapshot} (hs : (s.state.map Prod.fst).Nodup) :
    (b.keep s).snapshot b.snapshots.size = s := by
  have hstores := stores_of_tidy hb (w := .snapshot b.snapshots.size) (Or.inl rfl) hs
  rw [snapshot, recorded_keep, if_pos rfl]
  exact congrArg (fun state => { s with state := state }) hstores.load

end Changes

end Bench

end Optimizer

end DataParallel

import DataParallel.Proofs.Pool.Operations
import DataParallel.Proofs.Pool.Orderly
import Mathlib.Data.Set.Insert

/-!
# Closing a subtree

Closing a manager walks over lists that change while it does: every manager below takes itself off
the list of its parent, and every array ends its bond.  What comes out is described here at once,
for a set of managers: they are closed and empty, the arrays that they listed are closed, and
everything else is as it was, except that nobody lists a manager of the set any more.  Two such
changes, one after the other, are one for the union, and this is all that the induction on the
height of the tree needs.

The walk is bounded by the number of managers.  `Closes` is the walk without a bound: it ends, and
with the same pool.
-/

namespace DataParallel

namespace Pool

/-- The managers at and below one. -/
inductive InSubtree (p : Pool) (m : ManagerId) : ManagerId → Prop
  | top : InSubtree p m m
  | child {n c : ManagerId} : InSubtree p m n → (p.manager c).parent = some n → InSubtree p m c

/-- The open managers at and below one. -/
def openSubtree (p : Pool) (m : ManagerId) : Set ManagerId :=
  {n | p.InSubtree m n ∧ (p.manager n).isOpen = true}

section InSubtree

variable {p q : Pool} {m n c : ManagerId}

theorem InSubtree.trans (hmn : p.InSubtree m n) (hnc : p.InSubtree n c) : p.InSubtree m c := by
  induction hnc with
  | top => exact hmn
  | child _ hparent ih => exact .child ih hparent

/-- What is below a manager is below one of its children. -/
theorem InSubtree.eq_or_below_child (h : p.InSubtree m n) :
    n = m ∨ ∃ c, (p.manager c).parent = some m ∧ p.InSubtree c n := by
  induction h with
  | top => exact Or.inl rfl
  | @child n d _ hparent ih =>
    right
    rcases ih with rfl | ⟨c, hc, hn⟩
    · exact ⟨d, hparent, .top⟩
    · exact ⟨c, hc, .child hn hparent⟩

theorem InSubtree.congr (hsame : ∀ n, (q.manager n).parent = (p.manager n).parent) :
    q.InSubtree m n ↔ p.InSubtree m n := by
  constructor
  · intro h
    induction h with
    | top => exact .top
    | child _ hparent ih => exact .child ih ((hsame _).symm.trans hparent)
  · intro h
    induction h with
    | top => exact .top
    | child _ hparent ih => exact .child ih ((hsame _).trans hparent)

theorem InSubtree.index_le (hp : p.Orderly) (h : p.InSubtree m n) : m.index ≤ n.index := by
  induction h with
  | top => exact Nat.le_refl _
  | child _ hparent ih => exact Nat.le_trans ih (Nat.le_of_lt (hp.older hparent))

/-- Nothing is open below a closed manager. -/
theorem InSubtree.isOpen (hp : p.Orderly) (h : p.InSubtree m n)
    (hn : (p.manager n).isOpen = true) : (p.manager m).isOpen = true := by
  induction h with
  | top => exact hn
  | child _ hparent ih => exact ih (hp.isOpen_parent hparent hn)

theorem openSubtree_of_closed (hp : p.Orderly) (hm : (p.manager m).isOpen = false) :
    p.openSubtree m = ∅ := by
  apply Set.eq_empty_iff_forall_notMem.mpr
  rintro n ⟨hn, hopen⟩
  rw [hn.isOpen hp hopen] at hm
  cases hm

/-- An open subtree is its top and the open subtrees of the children. -/
theorem openSubtree_of_open (hp : p.Orderly) (hm : (p.manager m).isOpen = true) :
    p.openSubtree m = {n | ∃ c ∈ (p.manager m).children, n ∈ p.openSubtree c} ∪ {m} := by
  ext n
  constructor
  · rintro ⟨hn, hopen⟩
    rcases hn.eq_or_below_child with rfl | ⟨c, hc, hn⟩
    · exact Or.inr rfl
    · left
      exact ⟨c, hp.child.mpr ⟨hc, hn.isOpen hp hopen⟩, hn, hopen⟩
  · rintro (⟨c, hc, hn, hopen⟩ | rfl)
    · exact ⟨InSubtree.trans (.child .top (hp.child.mp hc).1) hn, hopen⟩
    · exact ⟨.top, hm⟩

end InSubtree

/-! ## Closing a set of managers -/

open Classical in
/-- Managers without those of a set. -/
noncomputable def without (S : Set ManagerId) (ms : List ManagerId) : List ManagerId :=
  ms.filter (· ∉ S)

section Without

variable {S T : Set ManagerId} {ms : List ManagerId} {m : ManagerId}

theorem mem_without : m ∈ without S ms ↔ m ∈ ms ∧ m ∉ S := by
  simp [without]

theorem nodup_without (h : ms.Nodup) : (without S ms).Nodup :=
  h.filter _

theorem without_of_forall (h : ∀ c ∈ ms, c ∉ S) : without S ms = ms := by
  apply List.filter_eq_self.mpr
  simpa using h

theorem without_without : without T (without S ms) = without (S ∪ T) ms := by
  rw [without, without, without, List.filter_filter]
  apply List.filter_congr
  intro c _
  by_cases hc : c ∈ S
  · simp [hc]
  · simp [hc]

theorem without_eq_nil (h : ∀ c ∈ ms, c ∈ S) : without S ms = [] := by
  apply List.filter_eq_nil_iff.mpr
  simpa using h

theorem without_eq_erase (hms : ms.Nodup) (h : ∀ c ∈ ms, c ∈ S ↔ c = m) :
    without S ms = ms.erase m := by
  rw [without, hms.erase_eq_filter]
  apply List.filter_congr
  intro c hc
  have hiff := h c hc
  by_cases hcm : c = m
  · subst hcm
    simp [hiff]
  · simp [hiff, hcm]

end Without

/-- A set of managers was closed, with the arrays on their lists. -/
structure Shuts (S : Set ManagerId) (p q : Pool) : Prop where
  buffers : q.buffers = p.buffers
  managers_size : q.managers.size = p.managers.size
  shut : ∀ {n}, n ∈ S →
    q.manager n = { p.manager n with resources := [], children := [], isOpen := false }
  spared : ∀ {n}, n ∉ S →
    q.manager n = { p.manager n with children := without S (p.manager n).children }
  closed : ∀ {n a}, n ∈ S → a ∈ (p.manager n).resources →
    q.array a = { p.array a with manager := none, holding := none }
  kept : ∀ {a}, (∀ n ∈ S, a ∉ (p.manager n).resources) → q.array a = p.array a

section Shuts

variable {S T : Set ManagerId} {p q r : Pool}

theorem Shuts.empty (p : Pool) : Shuts ∅ p p where
  buffers := rfl
  managers_size := rfl
  shut h := h.elim
  spared _ := by rw [without_of_forall (S := ∅) fun _ _ => Set.notMem_empty _]
  closed h := h.elim
  kept _ := rfl

theorem Shuts.parent (h : Shuts S p q) (n : ManagerId) :
    (q.manager n).parent = (p.manager n).parent := by
  by_cases hn : n ∈ S
  · rw [h.shut hn]
  · rw [h.spared hn]

theorem Shuts.resources_subset (h : Shuts S p q) {n : ManagerId} {a : ArrayId}
    (ha : a ∈ (q.manager n).resources) : n ∉ S ∧ a ∈ (p.manager n).resources := by
  by_cases hn : n ∈ S
  · rw [h.shut hn] at ha
    cases ha
  · rw [h.spared hn] at ha
    exact ⟨hn, ha⟩

theorem Shuts.isOpen_iff (h : Shuts S p q) (n : ManagerId) :
    (q.manager n).isOpen = true ↔ (p.manager n).isOpen = true ∧ n ∉ S := by
  by_cases hn : n ∈ S
  · rw [h.shut hn]
    simp [hn]
  · rw [h.spared hn]
    simp [hn]

/-- Two sets, one after the other, are closed like their union. -/
theorem Shuts.trans (hpq : Shuts S p q) (hqr : Shuts T q r) : Shuts (S ∪ T) p r where
  buffers := hqr.buffers.trans hpq.buffers
  managers_size := hqr.managers_size.trans hpq.managers_size
  shut := by
    intro n hn
    by_cases hS : n ∈ S
    · by_cases hT : n ∈ T
      · rw [hqr.shut hT, hpq.shut hS]
      · rw [hqr.spared hT, hpq.shut hS]
        rfl
    · rw [hqr.shut (hn.resolve_left hS), hpq.spared hS]
  spared := by
    intro n hn
    have hS : n ∉ S := fun h => hn (Or.inl h)
    have hT : n ∉ T := fun h => hn (Or.inr h)
    rw [hqr.spared hT, hpq.spared hS]
    simp only [without_without]
  closed := by
    intro n a hn ha
    by_cases hS : n ∈ S
    · have hq := hpq.closed hS ha
      by_cases hlisted : ∃ n' ∈ T, a ∈ (q.manager n').resources
      · obtain ⟨n', hT, ha'⟩ := hlisted
        rw [hqr.closed hT ha', hq]
      · rw [hqr.kept fun n' hT ha' => hlisted ⟨n', hT, ha'⟩, hq]
    · have hT := hn.resolve_left hS
      have ha' : a ∈ (q.manager n).resources := by
        rw [hpq.spared hS]
        exact ha
      rw [hqr.closed hT ha']
      by_cases hlisted : ∃ n' ∈ S, a ∈ (p.manager n').resources
      · obtain ⟨n', hS', ha''⟩ := hlisted
        rw [hpq.closed hS' ha'']
      · rw [hpq.kept fun n' hS' ha'' => hlisted ⟨n', hS', ha''⟩]
  kept := by
    intro a ha
    have hq : q.array a = p.array a := by
      apply hpq.kept
      intro n hn
      exact ha n (Or.inl hn)
    have hr : r.array a = q.array a := by
      apply hqr.kept
      intro n hn hmem
      exact ha n (Or.inr hn) (hpq.resources_subset hmem).2
    exact hr.trans hq

/-- What is closed has everything open below it closed with it. -/
theorem Shuts.orderly (h : Shuts S p q) (hp : p.Orderly)
    (hdown : ∀ n ∈ S, ∀ c, (p.manager c).parent = some n → (p.manager c).isOpen = true → c ∈ S) :
    q.Orderly := by
  have hsame : ∀ {n}, n ∉ S → (q.manager n).resources = (p.manager n).resources ∧
      (q.manager n).isOpen = (p.manager n).isOpen := by
    intro n hn
    rw [h.spared hn]
    exact ⟨rfl, rfl⟩
  constructor
  · intro a m ha
    obtain ⟨hm, hold⟩ := h.resources_subset ha
    have hkept : q.array a = p.array a := by
      apply h.kept
      intro n hn hlisted
      rw [hp.eq_of_mem hold hlisted] at hm
      exact hm hn
    rw [hkept]
    exact hp.owner hold
  · intro a ha
    by_cases hlisted : ∃ n ∈ S, a ∈ (p.manager n).resources
    · obtain ⟨n, hn, hmem⟩ := hlisted
      rw [h.closed hn hmem]
    · have hkept : q.array a = p.array a := h.kept fun n hn hmem => hlisted ⟨n, hn, hmem⟩
      rw [isClosed, hkept] at ha
      rw [hkept]
      exact hp.unowned ha
  · intro m
    by_cases hm : m ∈ S
    · rw [h.shut hm]
      exact List.nodup_nil
    · rw [(hsame hm).1]
      exact hp.nodup m
  · intro m hclosed
    by_cases hm : m ∈ S
    · rw [h.shut hm]
    · rw [(hsame hm).2] at hclosed
      rw [(hsame hm).1]
      exact hp.idle hclosed
  · intro m c
    rw [h.parent, h.isOpen_iff]
    by_cases hm : m ∈ S
    · -- The open children of what is closed are closed with it.
      rw [h.shut hm]
      constructor
      · intro hmem
        cases hmem
      · rintro ⟨hparent, hopen, hc⟩
        exact absurd (hdown m hm c hparent hopen) hc
    · rw [h.spared hm]
      simp [mem_without, hp.child, and_assoc]
  · intro m
    by_cases hm : m ∈ S
    · rw [h.shut hm]
      exact List.nodup_nil
    · rw [h.spared hm]
      exact nodup_without (hp.nodup_children m)
  · intro m hclosed
    by_cases hm : m ∈ S
    · rw [h.shut hm]
    · rw [(hsame hm).2] at hclosed
      rw [h.spared hm]
      simp [hp.childless hclosed, without]
  · intro m c hparent
    rw [h.parent] at hparent
    exact hp.older hparent

theorem openSubtree_of_shuts (h : Shuts S p q) (m : ManagerId) :
    q.openSubtree m = p.openSubtree m \ S := by
  ext n
  simp only [openSubtree, Set.mem_ofPred_eq, Set.mem_sdiff, InSubtree.congr h.parent,
    h.isOpen_iff, and_assoc]

end Shuts

/-! ## One manager -/

/-- A manager is marked as closed, and then its arrays are closed. -/
def vacated (p : Pool) (m : ManagerId) : Pool :=
  (p.manager m).resources.foldl closed
    (p.updateManager m fun s => { s with resources := [], isOpen := false })

/-- A manager without open managers below it is closed, with its arrays, and leaves the list of
its parent. -/
def shut (p : Pool) (m : ManagerId) : Pool :=
  match ((p.vacated m).manager m).parent with
  | some above =>
    (p.vacated m).updateManager above fun s => { s with children := s.children.erase m }
  | none => p.vacated m

theorem closedBelow_of_closed {p : Pool} {m : ManagerId} (depth : Nat)
    (hm : (p.manager m).isOpen = false) : closedBelow depth p m = p := by
  cases depth with
  | zero => rfl
  | succ depth => rw [closedBelow, hm, Bool.not_false, if_pos rfl]

theorem closedBelow_of_open {p : Pool} {m : ManagerId} (depth : Nat)
    (hm : (p.manager m).isOpen = true) :
    closedBelow (depth + 1) p m = ((p.manager m).children.foldl (closedBelow depth) p).shut m := by
  rw [closedBelow, hm, Bool.not_true, if_neg Bool.false_ne_true]
  rfl

/-- Some arrays were closed, and no manager changed. -/
structure Released (arrays : List ArrayId) (p q : Pool) : Prop where
  buffers : q.buffers = p.buffers
  managers_size : q.managers.size = p.managers.size
  manager : ∀ n, q.manager n = p.manager n
  closed : ∀ a ∈ arrays, q.array a = { p.array a with manager := none, holding := none }
  kept : ∀ a, a ∉ arrays → q.array a = p.array a

/-- The arrays of a manager that lists nothing any more are closed one after the other. -/
theorem released_foldl {m : ManagerId} (arrays : List ArrayId) {p : Pool}
    (hnodup : arrays.Nodup) (hempty : (p.manager m).resources = [])
    (harrays : ∀ a ∈ arrays, (p.array a).manager = some m ∧ p.isClosed a = false) :
    Released arrays p (arrays.foldl closed p) := by
  induction arrays generalizing p with
  | nil =>
    refine ⟨rfl, rfl, fun _ => rfl, ?_, fun _ _ => rfl⟩
    intro a ha
    cases ha
  | cons a rest ih =>
    obtain ⟨hfirst, hrest⟩ := List.nodup_cons.mp hnodup
    obtain ⟨hmanager, hopen⟩ := harrays a (List.mem_cons_self ..)
    have hclosed : p.closed a = ((p.release m a).updateArray a fun s =>
        { s with manager := none }).updateArray a fun s => { s with holding := none } := by
      rw [Pool.closed, hopen, if_neg Bool.false_ne_true, detached, hmanager]
    have hsame : ∀ n, (p.closed a).manager n = p.manager n := by
      intro n
      rw [hclosed, manager_updateArray, manager_updateArray, release, manager_updateManager]
      split
      · next hn =>
        rw [← hn.1, hempty, List.erase_nil, ← hempty]
      · rfl
    have hne : ∀ b ∈ rest, b ≠ a := by
      rintro b hb rfl
      exact hfirst hb
    have hother : ∀ b, b ≠ a → (p.closed a).array b = p.array b := by
      intro b hb
      rw [array_closed_of_open hopen, if_neg hb]
    have hafter : Released rest (p.closed a) (rest.foldl Pool.closed (p.closed a)) := by
      apply ih hrest
      · rw [hsame, hempty]
      · intro b hb
        rw [isClosed, hother b (hne b hb)]
        exact harrays b (List.mem_cons_of_mem _ hb)
    rw [List.foldl_cons]
    constructor
    · rw [hafter.buffers, hclosed]
      rfl
    · rw [hafter.managers_size, hclosed]
      exact managers_size_updateManager p m _
    · intro n
      rw [hafter.manager, hsame]
    · intro b hb
      cases List.mem_cons.mp hb with
      | inl hb => rw [hb, hafter.kept a hfirst, array_closed_of_open hopen, if_pos rfl]
      | inr hb => rw [hafter.closed b hb, hother b (hne b hb)]
    · intro b hb
      obtain ⟨hba, hb⟩ := List.ne_and_not_mem_of_not_mem_cons hb
      rw [hafter.kept b hb, hother b hba]

section Shut

variable {p : Pool} {m : ManagerId} (hp : p.Orderly) (hm : (p.manager m).isOpen = true)

include hm in
theorem manager_marked (n : ManagerId) :
    (p.updateManager m fun s => { s with resources := [], isOpen := false }).manager n =
      if n = m then { p.manager m with resources := [], isOpen := false } else p.manager n := by
  rw [manager_updateManager]
  by_cases hn : n = m
  · rw [if_pos ⟨hn.symm, by rw [hn]; exact lt_of_isOpen p hm⟩, if_pos hn, hn]
  · rw [if_neg fun h => hn h.1.symm, if_neg hn]

include hp hm in
theorem released_vacated :
    Released (p.manager m).resources
      (p.updateManager m fun s => { s with resources := [], isOpen := false }) (p.vacated m) := by
  apply released_foldl _ (hp.nodup m)
  · rw [manager_marked hm, if_pos rfl]
  · intro a ha
    refine ⟨hp.owner ha, ?_⟩
    cases hclosed : p.isClosed a with
    | false => exact hclosed
    | true => exact absurd ha (hp.unlisted_of_isClosed hclosed m)

include hp hm in
theorem manager_vacated (n : ManagerId) :
    (p.vacated m).manager n =
      if n = m then { p.manager m with resources := [], isOpen := false } else p.manager n := by
  rw [(released_vacated hp hm).manager, manager_marked hm]

include hp in
/-- Nobody but its parent has a manager on its list of children. -/
theorem without_children {n : ManagerId} (hn : (p.manager m).parent ≠ some n) :
    without {m} (p.manager n).children = (p.manager n).children := by
  apply without_of_forall
  rintro c hc rfl
  exact hn (hp.child.mp hc).1

include hp hm in
theorem manager_shut {n : ManagerId} (hn : n ≠ m) :
    (p.shut m).manager n =
      { p.manager n with children := without {m} (p.manager n).children } := by
  have hparent : ((p.vacated m).manager m).parent = (p.manager m).parent := by
    rw [manager_vacated hp hm, if_pos rfl]
  cases habove : (p.manager m).parent with
  | none =>
    rw [shut, hparent, habove]
    dsimp only
    rw [manager_vacated hp hm, if_neg hn, without_children hp]
    rw [habove]
    simp
  | some above =>
    rw [shut, hparent, habove]
    dsimp only
    rw [manager_updateManager, manager_vacated hp hm, if_neg hn]
    by_cases hn' : above = n
    · have hlt : n.index < (p.vacated m).managers.size := by
        rw [(released_vacated hp hm).managers_size, managers_size_updateManager, ← hn']
        exact Nat.lt_trans (hp.older habove) (lt_of_isOpen p hm)
      rw [if_pos ⟨hn', hlt⟩, without_eq_erase (m := m) (hp.nodup_children n)]
      intro c _
      exact Set.mem_singleton_iff
    · rw [if_neg fun h => hn' h.1, without_children hp]
      rw [habove]
      exact fun h => hn' (Option.some.inj h)

include hp hm in
theorem manager_shut_self :
    (p.shut m).manager m = { p.manager m with resources := [], isOpen := false } := by
  have hparent : ((p.vacated m).manager m).parent = (p.manager m).parent := by
    rw [manager_vacated hp hm, if_pos rfl]
  cases habove : (p.manager m).parent with
  | none =>
    rw [shut, hparent, habove]
    dsimp only
    rw [manager_vacated hp hm, if_pos rfl]
  | some above =>
    have hne : above ≠ m := by
      rintro rfl
      exact Nat.lt_irrefl _ (hp.older habove)
    rw [shut, hparent, habove]
    dsimp only
    rw [manager_updateManager, if_neg fun h => hne h.1, manager_vacated hp hm, if_pos rfl]

theorem tables_shut (p : Pool) (m : ManagerId) :
    (p.shut m).arrays = (p.vacated m).arrays ∧ (p.shut m).buffers = (p.vacated m).buffers ∧
      (p.shut m).managers.size = (p.vacated m).managers.size := by
  rw [shut]
  split
  · exact ⟨rfl, rfl, managers_size_updateManager _ _ _⟩
  · exact ⟨rfl, rfl, rfl⟩

include hp hm in
theorem shuts_shut (hchildren : (p.manager m).children = []) : Shuts {m} p (p.shut m) := by
  obtain ⟨harrays, hbuffers, hsize⟩ := tables_shut p m
  have hreleased := released_vacated hp hm
  have harray : ∀ a, (p.shut m).array a = (p.vacated m).array a := by
    intro a
    rw [array, array, harrays]
  constructor
  · rw [hbuffers, hreleased.buffers]
    rfl
  · rw [hsize, hreleased.managers_size, managers_size_updateManager]
  · rintro n rfl
    rw [manager_shut_self hp hm]
    simp only [hchildren]
  · intro n hn
    exact manager_shut hp hm hn
  · rintro n a rfl ha
    rw [harray, hreleased.closed a ha, array_updateManager]
  · intro a ha
    rw [harray, hreleased.kept a (ha m rfl), array_updateManager]

end Shut

/-! ## Whole subtrees -/

theorem Shuts.orderly_openSubtrees {p q : Pool} {ms : List ManagerId}
    (h : Shuts {n | ∃ m ∈ ms, n ∈ p.openSubtree m} p q) (hp : p.Orderly) : q.Orderly := by
  apply h.orderly hp
  rintro n ⟨m, hm, hn, -⟩ c hparent hopen
  exact ⟨m, hm, .child hn hparent, hopen⟩

theorem Shuts.orderly_openSubtree {p q : Pool} {m : ManagerId} (h : Shuts (p.openSubtree m) p q)
    (hp : p.Orderly) : q.Orderly := by
  apply h.orderly hp
  rintro n ⟨hn, -⟩ c hparent hopen
  exact ⟨.child hn hparent, hopen⟩

theorem shuts_foldl {depth : Nat}
    (hdepth : ∀ {p : Pool} {m : ManagerId}, p.Orderly → p.managers.size ≤ m.index + depth →
      Shuts (p.openSubtree m) p (closedBelow depth p m))
    (ms : List ManagerId) {p : Pool} (hp : p.Orderly)
    (hms : ∀ m ∈ ms, p.managers.size ≤ m.index + depth) :
    Shuts {n | ∃ m ∈ ms, n ∈ p.openSubtree m} p (ms.foldl (closedBelow depth) p) := by
  induction ms generalizing p with
  | nil =>
    have hnone : {n | ∃ m ∈ ([] : List ManagerId), n ∈ p.openSubtree m} = ∅ := by
      ext n
      simp
    rw [hnone]
    exact Shuts.empty p
  | cons m rest ih =>
    have hfirst := hdepth hp (hms m (List.mem_cons_self ..))
    have hrest := hfirst.trans (ih (hfirst.orderly_openSubtree hp) fun n hn => by
      rw [hfirst.managers_size]
      exact hms n (List.mem_cons_of_mem _ hn))
    rw [List.foldl_cons]
    convert hrest using 1
    ext n
    simp only [openSubtree_of_shuts hfirst, List.mem_cons, Set.mem_ofPred_eq, Set.mem_union,
      Set.mem_sdiff]
    constructor
    · rintro ⟨k, rfl | hk, hn⟩
      · exact Or.inl hn
      · by_cases hm : n ∈ p.openSubtree m
        · exact Or.inl hm
        · exact Or.inr ⟨k, hk, hn, hm⟩
    · rintro (hn | ⟨k, hk, hn, -⟩)
      · exact ⟨m, Or.inl rfl, hn⟩
      · exact ⟨k, Or.inr hk, hn⟩

/-- A walk of sufficient depth closes the open part of a subtree and nothing else. -/
theorem shuts_closedBelow (depth : Nat) {p : Pool} {m : ManagerId} (hp : p.Orderly)
    (hdepth : p.managers.size ≤ m.index + depth) :
    Shuts (p.openSubtree m) p (closedBelow depth p m) := by
  induction depth generalizing p m with
  | zero =>
    have hclosed : (p.manager m).isOpen = false := by
      rw [manager_of_le p (by simpa using hdepth)]
      rfl
    rw [openSubtree_of_closed hp hclosed]
    exact Shuts.empty p
  | succ depth ih =>
    cases hm : (p.manager m).isOpen with
    | false =>
      rw [openSubtree_of_closed hp hm, closedBelow_of_closed _ hm]
      exact Shuts.empty p
    | true =>
      -- First what is below, then the manager itself, which has no children any more.
      have hbelow := shuts_foldl ih (p.manager m).children hp fun c hc => by
        have holder := hp.older (hp.child.mp hc).1
        omega
      have hnot : m ∉ {n | ∃ c ∈ (p.manager m).children, n ∈ p.openSubtree c} := by
        rintro ⟨c, hc, hn, -⟩
        have holder := hp.older (hp.child.mp hc).1
        have hle := hn.index_le hp
        omega
      have hchildren : (((p.manager m).children.foldl (closedBelow depth) p).manager m).children =
          [] := by
        rw [hbelow.spared hnot]
        apply without_eq_nil
        intro c hc
        exact ⟨c, hc, .top, (hp.child.mp hc).2⟩
      have hself := shuts_shut (hbelow.orderly_openSubtrees hp)
        ((hbelow.isOpen_iff m).mpr ⟨hm, hnot⟩) hchildren
      rw [closedBelow_of_open _ hm, openSubtree_of_open hp hm]
      exact hbelow.trans hself

theorem shuts_managerClosed {p : Pool} (hp : p.Orderly) (m : ManagerId) :
    Shuts (p.openSubtree m) p (p.managerClosed m) :=
  shuts_closedBelow _ hp (Nat.le_add_left _ _)

theorem Orderly.managerClosed {p : Pool} (hp : p.Orderly) (m : ManagerId) :
    (p.managerClosed m).Orderly :=
  (shuts_managerClosed hp m).orderly_openSubtree hp

/-! ## The walk without a bound -/

/-- Managers are closed one after the other: each that is open after the managers on its list, and
as long as that takes. -/
inductive Closes : Pool → List ManagerId → Pool → Prop
  | done (p : Pool) : Closes p [] p
  | closed {p q : Pool} {m : ManagerId} {rest : List ManagerId} :
    (p.manager m).isOpen = false → Closes p rest q → Closes p (m :: rest) q
  | opened {p q r : Pool} {m : ManagerId} {rest : List ManagerId} :
    (p.manager m).isOpen = true → Closes p (p.manager m).children q →
      Closes (q.shut m) rest r → Closes p (m :: rest) r

theorem Closes.eq {p q r : Pool} {ms : List ManagerId} (hq : Closes p ms q)
    (hr : Closes p ms r) : q = r := by
  induction hq generalizing r with
  | done p =>
    cases hr
    rfl
  | closed hm _ ih =>
    cases hr with
    | closed _ hrest => exact ih hrest
    | opened hopen _ _ =>
      rw [hm] at hopen
      cases hopen
  | opened hm _ _ ihbelow ihrest =>
    cases hr with
    | closed hclosed _ =>
      rw [hm] at hclosed
      cases hclosed
    | opened _ hbelow hrest =>
      rw [← ihbelow hbelow] at hrest
      exact ihrest hrest

theorem closes_foldl (depth : Nat) (ms : List ManagerId) {p : Pool} (hp : p.Orderly)
    (hms : ∀ m ∈ ms, p.managers.size ≤ m.index + depth) :
    Closes p ms (ms.foldl (closedBelow depth) p) := by
  induction depth generalizing p ms with
  | zero =>
    induction ms with
    | nil => exact .done p
    | cons m rest ih =>
      have hclosed : (p.manager m).isOpen = false := by
        rw [manager_of_le p (by simpa using hms m (List.mem_cons_self ..))]
        rfl
      exact .closed hclosed (ih fun n hn => hms n (List.mem_cons_of_mem _ hn))
  | succ depth ihdepth =>
    induction ms generalizing p with
    | nil => exact .done p
    | cons m rest ih =>
      have hfirst := hms m (List.mem_cons_self ..)
      have hrest : Closes (closedBelow (depth + 1) p m) rest
          (rest.foldl (closedBelow (depth + 1)) (closedBelow (depth + 1) p m)) := by
        have hshuts := shuts_closedBelow (depth + 1) hp hfirst
        apply ih
        · exact hshuts.orderly_openSubtree hp
        · intro n hn
          rw [hshuts.managers_size]
          exact hms n (List.mem_cons_of_mem _ hn)
      rw [List.foldl_cons]
      cases hm : (p.manager m).isOpen with
      | false =>
        rw [closedBelow_of_closed _ hm] at hrest ⊢
        exact .closed hm hrest
      | true =>
        have hbelow := ihdepth (p.manager m).children hp fun c hc => by
          have holder := hp.older (hp.child.mp hc).1
          omega
        rw [closedBelow_of_open _ hm] at hrest ⊢
        exact .opened hm hbelow hrest

/-- Closing a manager ends, and with one pool. -/
theorem closes_iff {p q : Pool} (hp : p.Orderly) (m : ManagerId) :
    Closes p [m] q ↔ q = p.managerClosed m := by
  have hcloses : Closes p [m] (p.managerClosed m) := by
    apply closes_foldl p.managers.size [m] hp
    intro n _
    exact Nat.le_add_left _ _
  constructor
  · intro h
    exact h.eq hcloses
  · rintro rfl
    exact hcloses

end Pool

end DataParallel

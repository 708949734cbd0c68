import DataParallel.Proofs.Pool.Requests

/-!
# Orderly pools

Who owns an array is written down twice, in the list of a manager and in the array, and so is the
tree of managers, in the lists of children and in the parents.  A pool is orderly if the lists say
nothing but what arrays and children say themselves, if only open managers have entries, and if
every open manager is on the list of its parent.

An array may name a manager that does not list it: this is what a manager leaves behind that refuses
an array of another one.  Nothing here excludes it.
-/

namespace DataParallel

namespace Pool

open Step

/-- What holds of the managers of every pool that requests lead to. -/
structure Orderly (p : Pool) : Prop where
  /-- What a manager lists, names it. -/
  owner : ∀ {a m}, a ∈ (p.manager m).resources → (p.array a).manager = some m
  /-- A closed array names no manager. -/
  unowned : ∀ {a}, p.isClosed a = true → (p.array a).manager = none
  nodup : ∀ m, (p.manager m).resources.Nodup
  /-- A closed manager lists no arrays. -/
  idle : ∀ {m}, (p.manager m).isOpen = false → (p.manager m).resources = []
  /-- The children of a manager are the open managers below it. -/
  child : ∀ {m c}, c ∈ (p.manager m).children ↔
    (p.manager c).parent = some m ∧ (p.manager c).isOpen = true
  nodup_children : ∀ m, (p.manager m).children.Nodup
  /-- A closed manager has no children. -/
  childless : ∀ {m}, (p.manager m).isOpen = false → (p.manager m).children = []
  /-- A manager is older than those below it. -/
  older : ∀ {m c}, (p.manager c).parent = some m → m.index < c.index

/-- The array is on no list. -/
def Unlisted (p : Pool) (a : ArrayId) : Prop := ∀ m, a ∉ (p.manager m).resources

section Orderly

variable {p q : Pool}

theorem Orderly.isOpen_of_mem (hp : p.Orderly) {a : ArrayId} {m : ManagerId}
    (ha : a ∈ (p.manager m).resources) : (p.manager m).isOpen = true := by
  cases hm : (p.manager m).isOpen with
  | false =>
    rw [hp.idle hm] at ha
    cases ha
  | true => rfl

/-- No list has a closed array. -/
theorem Orderly.unlisted_of_isClosed (hp : p.Orderly) {a : ArrayId} (ha : p.isClosed a = true) :
    p.Unlisted a := by
  intro m hmem
  have hnone := hp.unowned ha
  rw [hp.owner hmem] at hnone
  cases hnone

theorem Orderly.unlisted_of_manager (hp : p.Orderly) {a : ArrayId}
    (ha : (p.array a).manager = none) : p.Unlisted a := by
  intro m hmem
  rw [hp.owner hmem] at ha
  cases ha

theorem Orderly.eq_of_mem (hp : p.Orderly) {a : ArrayId} {m n : ManagerId}
    (hm : a ∈ (p.manager m).resources) (hn : a ∈ (p.manager n).resources) : m = n :=
  Option.some.inj ((hp.owner hm).symm.trans (hp.owner hn))

/-- An open manager is below an open one. -/
theorem Orderly.isOpen_parent (hp : p.Orderly) {m c : ManagerId}
    (hparent : (p.manager c).parent = some m) (hc : (p.manager c).isOpen = true) :
    (p.manager m).isOpen = true := by
  have hmem := hp.child.mpr ⟨hparent, hc⟩
  cases hm : (p.manager m).isOpen with
  | false =>
    rw [hp.childless hm] at hmem
    cases hmem
  | true => rfl

theorem orderly_empty : empty.Orderly where
  owner h := by cases h
  unowned _ := rfl
  nodup _ := List.nodup_nil
  idle _ := rfl
  child := by
    intro m c
    constructor
    · intro h
      cases h
    · rintro ⟨h, -⟩
      cases h
  nodup_children _ := List.nodup_nil
  childless _ := rfl
  older h := by cases h

/-- Requests that leave bonds alone keep a pool orderly. -/
theorem Orderly.sameBonds (hp : p.Orderly) (h : p.SameBonds q) : q.Orderly := by
  have hmanager : ∀ m, q.manager m = p.manager m := by
    intro m
    rw [manager, manager, h.managers]
  constructor
  · intro a m ha
    rw [hmanager] at ha
    rw [h.manager]
    exact hp.owner ha
  · intro a ha
    rw [h.manager]
    by_cases hhas : p.Has a
    · rw [h.isClosed a hhas] at ha
      exact hp.unowned ha
    · rw [array_of_not_has p hhas]
      rfl
  · intro m
    rw [hmanager]
    exact hp.nodup m
  · intro m hm
    rw [hmanager] at hm ⊢
    exact hp.idle hm
  · intro m c
    rw [hmanager, hmanager]
    exact hp.child
  · intro m
    rw [hmanager]
    exact hp.nodup_children m
  · intro m hm
    rw [hmanager] at hm ⊢
    exact hp.childless hm
  · intro m c hc
    rw [hmanager] at hc
    exact hp.older hc

end Orderly

/-! ## New managers -/

section NewManagers

variable {p q : Pool}

/-- Nobody is below the manager that is made next. -/
theorem Orderly.parent_ne_next (hp : p.Orderly) (c : ManagerId) :
    (p.manager c).parent ≠ some p.nextManager := by
  intro hparent
  have hlt := hp.older hparent
  have hdefault : p.manager c = default := manager_of_le p (Nat.le_of_lt hlt)
  rw [hdefault] at hparent
  cases hparent

theorem manager_nextManager : p.manager p.nextManager = default :=
  manager_of_le p (Nat.le_refl _)

/-- A manager was made below none or below an open one. -/
structure Grown (device : Device) (above : Option ManagerId) (p q : Pool) : Prop where
  above_isOpen : ∀ m, above = some m → (p.manager m).isOpen = true
  managers_le : p.managers.size ≤ q.managers.size
  array : ∀ a, q.array a = p.array a
  new : q.manager p.nextManager = ⟨device, above, [], [], true⟩
  old : ∀ n, n ≠ p.nextManager → q.manager n = { p.manager n with
    children := (p.manager n).children ++ if above = some n then [p.nextManager] else [] }

theorem grown_addManager (p : Pool) (device : Device) :
    Grown device none p (p.addManager ⟨device, none, [], [], true⟩).2 := by
  constructor
  · intro m h
    cases h
  · rw [managers_size_addManager]
    exact Nat.le_succ _
  · intro a
    rfl
  · rw [manager_addManager, if_pos rfl]
  · intro n hn
    rw [manager_addManager, if_neg hn]
    simp

theorem grown_withSubManager {m : ManagerId} (hm : (p.manager m).isOpen = true)
    (device : Device) :
    Grown (device.or (p.manager m).device) (some m) p (p.withSubManager m device) := by
  constructor
  · intro n hn
    rw [← Option.some.inj hn]
    exact hm
  · rw [Pool.withSubManager, managers_size_updateManager, managers_size_addManager]
    exact Nat.le_succ _
  · intro a
    rfl
  · rw [manager_withSubManager hm, if_pos rfl]
  · intro n hn
    rw [manager_withSubManager hm, if_neg hn]
    by_cases hnm : n = m
    · simp [hnm]
    · simp [hnm, Ne.symm hnm]

section Grown

variable {device : Device} {above : Option ManagerId}

theorem Grown.resources (h : Grown device above p q) (n : ManagerId) :
    (q.manager n).resources = (p.manager n).resources := by
  by_cases hn : n = p.nextManager
  · rw [hn, h.new, manager_nextManager]
    rfl
  · rw [h.old n hn]

theorem Orderly.next_not_mem_children (hp : p.Orderly) (n : ManagerId) :
    p.nextManager ∉ (p.manager n).children := by
  intro hmem
  rw [hp.child, manager_nextManager] at hmem
  cases hmem.2

variable (hp : p.Orderly) (h : Grown device above p q)

include hp h

/-- The lists say of the new manager what it says itself, and of the others what they said. -/
theorem Orderly.child_grown {n c : ManagerId} :
    c ∈ (q.manager n).children ↔ (q.manager c).parent = some n ∧ (q.manager c).isOpen = true := by
  have hnot : above ≠ some p.nextManager := by
    intro habove
    exact Nat.lt_irrefl _ (lt_of_isOpen p (h.above_isOpen _ habove))
  by_cases hn : n = p.nextManager
  · rw [hn, h.new]
    by_cases hc : c = p.nextManager
    · rw [hc, h.new]
      simp [hnot]
    · rw [h.old c hc]
      simp [hp.parent_ne_next c]
  · rw [h.old n hn]
    by_cases hc : c = p.nextManager
    · rw [hc, h.new]
      by_cases hbelow : above = some n
      · simp [hbelow]
      · simp [hbelow, hp.next_not_mem_children n]
    · rw [h.old c hc]
      by_cases hbelow : above = some n
      · simp [hbelow, hc, hp.child]
      · simp [hbelow, hp.child]

theorem Orderly.nodup_children_grown (n : ManagerId) : (q.manager n).children.Nodup := by
  by_cases hn : n = p.nextManager
  · rw [hn, h.new]
    exact List.nodup_nil
  · rw [h.old n hn]
    dsimp only
    split
    · apply List.nodup_append.mpr
      refine ⟨hp.nodup_children n, by simp, ?_⟩
      rintro c hc _ hd rfl
      rw [List.mem_singleton.mp hd] at hc
      exact hp.next_not_mem_children n hc
    · rw [List.append_nil]
      exact hp.nodup_children n

theorem Orderly.grown : q.Orderly := by
  constructor
  · intro a n ha
    rw [h.resources] at ha
    rw [h.array]
    exact hp.owner ha
  · intro a ha
    rw [isClosed, h.array] at ha
    rw [h.array]
    exact hp.unowned ha
  · intro n
    rw [h.resources]
    exact hp.nodup n
  · intro n hclosed
    by_cases hn : n = p.nextManager
    · rw [hn, h.new]
    · rw [h.old n hn] at hclosed ⊢
      exact hp.idle hclosed
  · exact hp.child_grown h
  · exact hp.nodup_children_grown h
  · intro n hclosed
    by_cases hn : n = p.nextManager
    · rw [hn, h.new]
    · rw [h.old n hn] at hclosed ⊢
      have hbelow : above ≠ some n := by
        intro habove
        rw [h.above_isOpen n habove] at hclosed
        cases hclosed
      simp [hbelow, hp.childless hclosed]
  · intro n c hparent
    by_cases hc : c = p.nextManager
    · rw [hc, h.new] at hparent
      rw [hc]
      exact lt_of_isOpen p (h.above_isOpen n hparent)
    · rw [h.old c hc] at hparent
      exact hp.older hparent

end Grown

end NewManagers

/-! ## Arrays that leave a list -/

section Leaving

variable {p q : Pool} {a : ArrayId}

/-- In an orderly pool an array can only be on the list of the manager that it names. -/
theorem Orderly.manager_freed (hp : p.Orderly) (a : ArrayId) (n : ManagerId) :
    (p.freed a).manager n =
      { p.manager n with resources := (p.manager n).resources.erase a } := by
  have hsame : a ∉ (p.manager n).resources →
      p.manager n = { p.manager n with resources := (p.manager n).resources.erase a } := by
    intro hnot
    rw [List.erase_of_not_mem hnot]
  cases hm : (p.array a).manager with
  | none =>
    rw [freed, hm]
    exact hsame (hp.unlisted_of_manager hm n)
  | some m =>
    rw [freed, hm]
    dsimp only
    rw [release, manager_updateManager]
    split
    · rfl
    · next hne =>
      apply hsame
      intro hmem
      apply hne
      constructor
      · exact Option.some.inj (hm.symm.trans (hp.owner hmem))
      · exact lt_of_isOpen p (hp.isOpen_of_mem hmem)

theorem array_freed (a b : ArrayId) : (p.freed a).array b = p.array b := by
  rw [freed]
  split
  · rfl
  · rfl

/-- An array left a list, and no other array changed. -/
theorem Orderly.of_erased (hp : p.Orderly)
    (hmanager : ∀ n, q.manager n =
      { p.manager n with resources := (p.manager n).resources.erase a })
    (harray : ∀ b, b ≠ a → q.array b = p.array b)
    (ha : q.isClosed a = true → (q.array a).manager = none) : q.Orderly := by
  constructor
  · intro b n hb
    rw [hmanager] at hb
    have hne : b ≠ a := by
      rintro rfl
      exact (hp.nodup n).not_mem_erase hb
    rw [harray b hne]
    exact hp.owner (List.mem_of_mem_erase hb)
  · intro b hb
    by_cases hba : b = a
    · rw [hba] at hb ⊢
      exact ha hb
    · rw [isClosed, harray b hba] at hb
      rw [harray b hba]
      exact hp.unowned hb
  · intro n
    rw [hmanager]
    exact (hp.nodup n).erase a
  · intro n hclosed
    rw [hmanager] at hclosed ⊢
    simp [hp.idle hclosed]
  · intro n c
    rw [hmanager, hmanager]
    exact hp.child
  · intro n
    rw [hmanager]
    exact hp.nodup_children n
  · intro n hclosed
    rw [hmanager] at hclosed ⊢
    exact hp.childless hclosed
  · intro n c hparent
    rw [hmanager] at hparent
    exact hp.older hparent

theorem Orderly.freed (hp : p.Orderly) (a : ArrayId) : (p.freed a).Orderly := by
  apply hp.of_erased (hp.manager_freed a)
  · intro b _
    exact array_freed a b
  · rw [isClosed, array_freed]
    exact hp.unowned

theorem Orderly.unlisted_freed (hp : p.Orderly) (a : ArrayId) : (p.freed a).Unlisted a := by
  intro m hmem
  rw [hp.manager_freed] at hmem
  exact (hp.nodup m).not_mem_erase hmem

/-! ### Detaching -/

theorem has_of_manager {m : ManagerId} (hm : (p.array a).manager = some m) : p.Has a := by
  by_cases ha : p.Has a
  · exact ha
  · rw [array_of_not_has p ha] at hm
    cases hm

theorem manager_detached (a : ArrayId) (n : ManagerId) :
    (p.detached a).manager n = (p.freed a).manager n := by
  cases hm : (p.array a).manager with
  | none => rw [detached, hm, Pool.freed, hm]
  | some m =>
    rw [detached, hm, Pool.freed, hm]
    rfl

theorem array_detached (a b : ArrayId) :
    (p.detached a).array b =
      if b = a then { p.array a with manager := none } else p.array b := by
  cases hm : (p.array a).manager with
  | none =>
    have hsame : p.detached a = p := by rw [detached, hm]
    rw [hsame]
    split
    · next hb => rw [hb, ← hm]
    · rfl
  | some m =>
    rw [detached, hm]
    dsimp only
    rw [array_updateArray, release, array_updateManager]
    by_cases hb : b = a
    · rw [if_pos ⟨hb.symm, by rw [hb]; exact has_of_manager hm⟩, if_pos hb, hb]
    · rw [if_neg fun h => hb h.1.symm, if_neg hb]

theorem Orderly.detached (hp : p.Orderly) (a : ArrayId) : (p.detached a).Orderly := by
  apply hp.of_erased (a := a)
  · intro n
    rw [manager_detached, hp.manager_freed]
  · intro b hb
    rw [array_detached, if_neg hb]
  · intro _
    rw [array_detached, if_pos rfl]

/-! ### Closing an array -/

theorem manager_closed_of_open (ha : p.isClosed a = false) (n : ManagerId) :
    (p.closed a).manager n = (p.freed a).manager n := by
  rw [closed, ha, if_neg Bool.false_ne_true, manager_updateArray, manager_detached]

theorem array_closed_of_open (ha : p.isClosed a = false) (b : ArrayId) :
    (p.closed a).array b =
      if b = a then { p.array a with manager := none, holding := none } else p.array b := by
  obtain ⟨h, hh⟩ := isClosed_eq_false_iff.mp ha
  have hhas : (p.detached a).Has a := by
    apply has_of_holding (h := h)
    rw [array_detached, if_pos rfl]
    exact hh
  rw [closed, ha, if_neg Bool.false_ne_true, array_updateArray, array_detached]
  by_cases hb : b = a
  · rw [if_pos ⟨hb.symm, by rw [hb]; exact hhas⟩, if_pos hb, if_pos hb]
  · rw [if_neg fun h => hb h.1.symm, if_neg hb, if_neg hb]

theorem closed_of_isClosed (ha : p.isClosed a = true) : p.closed a = p := by
  rw [closed, ha, if_pos rfl]

theorem Orderly.manager_closed (hp : p.Orderly) (a : ArrayId) (n : ManagerId) :
    (p.closed a).manager n =
      { p.manager n with resources := (p.manager n).resources.erase a } := by
  cases ha : p.isClosed a with
  | false => rw [manager_closed_of_open ha, hp.manager_freed]
  | true =>
    rw [closed_of_isClosed ha, List.erase_of_not_mem (hp.unlisted_of_isClosed ha n)]

theorem Orderly.array_closed (hp : p.Orderly) (a b : ArrayId) :
    (p.closed a).array b =
      if b = a then { p.array a with manager := none, holding := none } else p.array b := by
  cases ha : p.isClosed a with
  | false => exact array_closed_of_open ha b
  | true =>
    rw [closed_of_isClosed ha, ← hp.unowned ha, ← holding_of_isClosed ha]
    split
    · next hb => rw [hb]
    · rfl

theorem Orderly.closed (hp : p.Orderly) (a : ArrayId) : (p.closed a).Orderly := by
  apply hp.of_erased (hp.manager_closed a)
  · intro b hb
    rw [hp.array_closed, if_neg hb]
  · intro _
    rw [hp.array_closed, if_pos rfl]

end Leaving

/-! ## Arrays that are bound -/

section Binding

variable {p : Pool} {a : ArrayId} {m : ManagerId}

theorem manager_bound (hm : (p.manager m).isOpen = true) (ha : p.Unlisted a) (n : ManagerId) :
    (p.bound a m).manager n =
      if n = m then { p.manager m with resources := (p.manager m).resources ++ [a] }
      else p.manager n := by
  rw [bound, manager_updateArray, manager_updateManager]
  by_cases hn : n = m
  · rw [if_pos ⟨hn.symm, by rw [hn]; exact lt_of_isOpen p hm⟩, if_pos hn, hn, if_neg (ha m)]
  · rw [if_neg fun h => hn h.1.symm, if_neg hn]

theorem array_bound_self (ha : p.Has a) :
    (p.bound a m).array a = { p.array a with manager := some m } := by
  rw [bound, array_updateArray, array_updateManager, if_pos ⟨rfl, ha⟩]

theorem has_of_isClosed_eq_false (ha : p.isClosed a = false) : p.Has a := by
  obtain ⟨h, hh⟩ := isClosed_eq_false_iff.mp ha
  exact has_of_holding hh

theorem Orderly.bound (hp : p.Orderly) (hm : (p.manager m).isOpen = true)
    (ha : p.isClosed a = false) (hlist : p.Unlisted a) : (p.bound a m).Orderly := by
  have hself := array_bound_self (m := m) (has_of_isClosed_eq_false ha)
  have hsame : ∀ n, ((p.bound a m).manager n).isOpen = (p.manager n).isOpen ∧
      ((p.bound a m).manager n).children = (p.manager n).children ∧
      ((p.bound a m).manager n).parent = (p.manager n).parent := by
    intro n
    rw [manager_bound hm hlist]
    split
    · next hn => exact ⟨by rw [hn], by rw [hn], by rw [hn]⟩
    · exact ⟨rfl, rfl, rfl⟩
  have hmem : ∀ {b n}, b ∈ ((p.bound a m).manager n).resources ↔
      b ∈ (p.manager n).resources ∨ (b = a ∧ n = m) := by
    intro b n
    rw [manager_bound hm hlist]
    by_cases hn : n = m
    · simp [hn]
    · simp [hn]
  constructor
  · intro b n hb
    rcases hmem.mp hb with hold | ⟨rfl, rfl⟩
    · have hne : b ≠ a := by
        rintro rfl
        exact hlist n hold
      rw [array_bound_of_ne hne]
      exact hp.owner hold
    · rw [hself]
  · intro b hb
    have hne : b ≠ a := by
      rintro rfl
      rw [isClosed, hself] at hb
      rw [isClosed, hb] at ha
      cases ha
    rw [isClosed, array_bound_of_ne hne] at hb
    rw [array_bound_of_ne hne]
    exact hp.unowned hb
  · intro n
    rw [manager_bound hm hlist]
    split
    · apply List.nodup_append.mpr
      refine ⟨hp.nodup m, by simp, ?_⟩
      rintro b hb _ hc rfl
      rw [List.mem_singleton.mp hc] at hb
      exact hlist m hb
    · exact hp.nodup n
  · intro n hclosed
    have hn : n ≠ m := by
      rintro rfl
      rw [(hsame n).1, hm] at hclosed
      cases hclosed
    rw [manager_bound hm hlist, if_neg hn] at hclosed ⊢
    exact hp.idle hclosed
  · intro n c
    rw [(hsame n).2.1, (hsame c).2.2, (hsame c).1]
    exact hp.child
  · intro n
    rw [(hsame n).2.1]
    exact hp.nodup_children n
  · intro n hclosed
    rw [(hsame n).1] at hclosed
    rw [(hsame n).2.1]
    exact hp.childless hclosed
  · intro n c hparent
    rw [(hsame c).2.2] at hparent
    exact hp.older hparent

/-- Attaching keeps a pool orderly, also when the new manager refuses the array. -/
theorem Orderly.attach (hp : p.Orderly) (a : ArrayId) (m : ManagerId) :
    ((Request.attach a m).after p).Orderly := by
  rw [after_attach]
  split
  · exact hp
  · next hother =>
    have ha : p.isClosed a = false := by
      cases ha : p.isClosed a with
      | false => rfl
      | true => exact absurd (Or.inl ha) hother
    split
    · next hopen =>
      apply (hp.freed a).bound
      · rw [hp.manager_freed]
        exact hopen
      · rw [isClosed, array_freed]
        exact ha
      · exact hp.unlisted_freed a
    · exact hp.freed a

theorem Orderly.created (hp : p.Orderly) (hm : (p.manager m).isOpen = true) (device : Device)
    (t : Contents) : (p.created m device t).Orderly := by
  have hplaced : p.SameBonds (p.placed (device.or (p.manager m).device) t) :=
    p.sameBonds_addOwning _ _ _
  apply (hp.sameBonds hplaced).bound
  · exact hm
  · rw [isClosed, array_placed_next]
    rfl
  · apply (hp.sameBonds hplaced).unlisted_of_manager
    rw [array_placed_next]

theorem Orderly.makes {q : Pool} (hp : p.Orderly) (h : p.Makes m q) : q.Orderly := by
  cases h with
  | inl hsame =>
    rw [hsame]
    exact hp
  | inr hmade =>
    obtain ⟨hopen, device, t, hmade⟩ := hmade
    rw [hmade]
    exact hp.created hopen device t

end Binding

end Pool

end DataParallel

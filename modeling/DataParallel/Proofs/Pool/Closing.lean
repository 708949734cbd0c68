import DataParallel.Proofs.Pool.Subtree

/-!
# Closing is exact and final

Every pool that requests lead to is orderly.  Closing a manager there closes what is open at and
below it, with the arrays listed there, and leaves everything else as it was.  What is closed stays
closed and empty whatever is asked for later, and nothing new comes below it.
-/

namespace DataParallel

namespace Pool

/-! ## Reachable pools -/

theorem Orderly.after {p : Pool} (hp : p.Orderly) (r : Request) : (r.after p).Orderly := by
  cases r with
  | newManager device => exact hp.grown (grown_addManager p _)
  | newSubManager m device =>
    rw [after_newSubManager]
    split
    · next hopen => exact hp.grown (grown_withSubManager hopen device)
    · exact hp
  | create m contents device => exact hp.makes (makes_create p m contents device)
  | createFilled m contents => exact hp.makes (makes_createFilled p m contents)
  | attach a m => exact hp.attach a m
  | detach a => exact hp.detached a
  | close a => exact hp.closed a
  | closeManager m => exact hp.managerClosed m
  | _ => exact hp.sameBonds (sameBonds_after p rfl)

theorem Orderly.afterAll {p : Pool} (hp : p.Orderly) (requests : List Request) :
    (p.afterAll requests).Orderly := by
  induction requests generalizing p with
  | nil => exact hp
  | cons r rest ih => exact ih (hp.after r)

/-- What requests lead to is orderly. -/
theorem orderly_afterAll (requests : List Request) : (empty.afterAll requests).Orderly :=
  orderly_empty.afterAll requests

/-! ## Aging -/

/-- A manager that was closed is still closed, and nothing new is below it. -/
structure Ages (p q : Pool) : Prop where
  managers_le : p.managers.size ≤ q.managers.size
  isOpen : ∀ {n}, n.index < p.managers.size → (p.manager n).isOpen = false →
    (q.manager n).isOpen = false
  parent : ∀ {n c}, n.index < p.managers.size → (p.manager n).isOpen = false →
    (q.manager c).parent = some n → (p.manager c).parent = some n

theorem Ages.refl (p : Pool) : p.Ages p :=
  ⟨Nat.le_refl _, fun _ h => h, fun _ _ h => h⟩

theorem Ages.trans {p q r : Pool} (hpq : p.Ages q) (hqr : q.Ages r) : p.Ages r where
  managers_le := Nat.le_trans hpq.managers_le hqr.managers_le
  isOpen hn hclosed :=
    hqr.isOpen (Nat.lt_of_lt_of_le hn hpq.managers_le) (hpq.isOpen hn hclosed)
  parent hn hclosed hparent :=
    hpq.parent hn hclosed
      (hqr.parent (Nat.lt_of_lt_of_le hn hpq.managers_le) (hpq.isOpen hn hclosed) hparent)

section Ages

variable {p q : Pool}

/-- Lists may change without a manager aging. -/
theorem Ages.of_lists (hsize : q.managers.size = p.managers.size)
    (hmanager : ∀ n, ∃ resources, q.manager n = { p.manager n with resources := resources }) :
    p.Ages q := by
  constructor
  · exact Nat.le_of_eq hsize.symm
  · intro n _ hclosed
    obtain ⟨resources, h⟩ := hmanager n
    rw [h]
    exact hclosed
  · intro n c _ _ hparent
    obtain ⟨resources, h⟩ := hmanager c
    rw [h] at hparent
    exact hparent

theorem Ages.grown {device : Device} {above : Option ManagerId}
    (h : Grown device above p q) : p.Ages q := by
  have hne : ∀ {n : ManagerId}, n.index < p.managers.size → n ≠ p.nextManager := by
    rintro n hn rfl
    exact Nat.lt_irrefl _ hn
  constructor
  · exact h.managers_le
  · intro n hn hclosed
    rw [h.old n (hne hn)]
    exact hclosed
  · intro n c hn hclosed hparent
    by_cases hc : c = p.nextManager
    · -- The new manager is below an open one.
      rw [hc, h.new] at hparent
      rw [h.above_isOpen n hparent] at hclosed
      cases hclosed
    · rw [h.old c hc] at hparent
      exact hparent

theorem Ages.sameBonds (h : p.SameBonds q) : p.Ages q := by
  apply Ages.of_lists
  · rw [h.managers]
  · intro n
    refine ⟨(p.manager n).resources, ?_⟩
    rw [manager, manager, h.managers]

theorem Ages.shuts {S : Set ManagerId} (h : Shuts S p q) : p.Ages q := by
  constructor
  · exact Nat.le_of_eq h.managers_size.symm
  · intro n _ hclosed
    by_cases hn : n ∈ S
    · rw [h.shut hn]
    · rw [h.spared hn]
      exact hclosed
  · intro n c _ _ hparent
    rw [h.parent] at hparent
    exact hparent

theorem managers_size_freed (p : Pool) (a : ArrayId) :
    (p.freed a).managers.size = p.managers.size := by
  rw [freed]
  split
  · exact managers_size_updateManager _ _ _
  · rfl

theorem managers_size_detached (p : Pool) (a : ArrayId) :
    (p.detached a).managers.size = p.managers.size := by
  rw [detached]
  split
  · exact managers_size_updateManager _ _ _
  · rfl

theorem managers_size_closed (p : Pool) (a : ArrayId) :
    (p.closed a).managers.size = p.managers.size := by
  rw [closed]
  split
  · rfl
  · exact managers_size_detached p a

theorem Ages.freed (hp : p.Orderly) (a : ArrayId) : p.Ages (p.freed a) :=
  Ages.of_lists (managers_size_freed p a) fun n => ⟨_, hp.manager_freed a n⟩

theorem Ages.detached (hp : p.Orderly) (a : ArrayId) : p.Ages (p.detached a) :=
  Ages.of_lists (managers_size_detached p a) fun n =>
    ⟨_, (manager_detached a n).trans (hp.manager_freed a n)⟩

theorem Ages.closed (hp : p.Orderly) (a : ArrayId) : p.Ages (p.closed a) :=
  Ages.of_lists (managers_size_closed p a) fun n => ⟨_, hp.manager_closed a n⟩

theorem Ages.bound (p : Pool) (a : ArrayId) (m : ManagerId) : p.Ages (p.bound a m) := by
  apply Ages.of_lists
  · exact managers_size_updateManager _ _ _
  · intro n
    rw [Pool.bound, manager_updateArray, manager_updateManager]
    split
    · exact ⟨_, rfl⟩
    · exact ⟨_, rfl⟩

theorem Ages.created (p : Pool) (m : ManagerId) (device : Device) (t : Contents) :
    p.Ages (p.created m device t) :=
  (Ages.sameBonds (p.sameBonds_addOwning _ _ _)).trans (Ages.bound _ _ _)

theorem Ages.makes {m : ManagerId} (h : p.Makes m q) : p.Ages q := by
  cases h with
  | inl hsame =>
    rw [hsame]
    exact Ages.refl p
  | inr hmade =>
    obtain ⟨-, device, t, hmade⟩ := hmade
    rw [hmade]
    exact Ages.created p m device t

theorem Ages.after (hp : p.Orderly) (r : Request) : p.Ages (r.after p) := by
  cases r with
  | newManager device => exact Ages.grown (grown_addManager p _)
  | newSubManager m device =>
    rw [after_newSubManager]
    split
    · next hopen => exact Ages.grown (grown_withSubManager hopen device)
    · exact Ages.refl p
  | create m contents device => exact Ages.makes (makes_create p m contents device)
  | createFilled m contents => exact Ages.makes (makes_createFilled p m contents)
  | attach a m =>
    rw [after_attach]
    split
    · exact Ages.refl p
    · split
      · exact (Ages.freed hp a).trans (Ages.bound _ a m)
      · exact Ages.freed hp a
  | detach a => exact Ages.detached hp a
  | close a => exact Ages.closed hp a
  | closeManager m => exact Ages.shuts (shuts_managerClosed hp m)
  | _ => exact Ages.sameBonds (sameBonds_after p rfl)

theorem Ages.afterAll (hp : p.Orderly) (requests : List Request) :
    p.Ages (p.afterAll requests) := by
  induction requests generalizing p with
  | nil => exact Ages.refl p
  | cons r rest ih => exact (Ages.after hp r).trans (ih (hp.after r))

end Ages

/-! ## What closing does -/

/-- A manager was closed with everything below it, and nothing else happened. -/
structure ClosedExactly (p : Pool) (m : ManagerId) (q : Pool) : Prop where
  isOpen : ∀ n, (q.manager n).isOpen = true ↔ (p.manager n).isOpen = true ∧ ¬p.InSubtree m n
  isClosed : ∀ a, q.isClosed a = true ↔
    p.isClosed a = true ∨ ∃ n ∈ p.openSubtree m, a ∈ (p.manager n).resources
  /-- Other managers keep what they have, but for the closed one among their children. -/
  manager : ∀ n, n ∉ p.openSubtree m →
    q.manager n = { p.manager n with children := (p.manager n).children.erase m }
  emptied : ∀ n ∈ p.openSubtree m,
    q.manager n = { p.manager n with resources := [], children := [], isOpen := false }
  array : ∀ a, (∀ n ∈ p.openSubtree m, a ∉ (p.manager n).resources) → q.array a = p.array a
  /-- No contents are touched. -/
  buffers : q.buffers = p.buffers

/-- Closed managers have nothing, and lists have nothing closed. -/
structure Vacant (p : Pool) : Prop where
  resources : ∀ n, (p.manager n).isOpen = false → (p.manager n).resources = []
  children : ∀ n, (p.manager n).isOpen = false → (p.manager n).children = []
  below : ∀ n c, (p.manager n).isOpen = false → (p.manager c).parent = some n →
    (p.manager c).isOpen = false
  unlisted : ∀ a, p.isClosed a = true → p.Unlisted a

/-- A manager is closed for good: it has nothing, nothing came below it, and closing it changes
nothing. -/
structure Ended (p : Pool) (n : ManagerId) (q : Pool) : Prop where
  isOpen : (q.manager n).isOpen = false
  resources : (q.manager n).resources = []
  children : (q.manager n).children = []
  below : ∀ c, (q.manager c).parent = some n →
    (p.manager c).parent = some n ∧ (q.manager c).isOpen = false
  again : q.managerClosed n = q

section Closing

variable {p q : Pool} {m : ManagerId}

/-- Outside an open subtree, only its top can be on a list of children. -/
theorem Orderly.without_openSubtree (hp : p.Orderly) {n : ManagerId}
    (hn : n ∉ p.openSubtree m) :
    without (p.openSubtree m) (p.manager n).children = (p.manager n).children.erase m := by
  apply without_eq_erase (hp.nodup_children n)
  intro c hc
  obtain ⟨hparent, hopen⟩ := hp.child.mp hc
  constructor
  · rintro ⟨hbelow, -⟩
    cases hbelow with
    | top => rfl
    | child hbelow hparent' =>
      rw [hparent] at hparent'
      rw [← Option.some.inj hparent'] at hbelow
      exact absurd ⟨hbelow, hp.isOpen_parent hparent hopen⟩ hn
  · rintro rfl
    exact ⟨.top, hopen⟩

theorem Orderly.closedExactly (hp : p.Orderly) (m : ManagerId) :
    ClosedExactly p m (p.managerClosed m) := by
  have h := shuts_managerClosed hp m
  constructor
  · intro n
    rw [h.isOpen_iff]
    constructor
    · rintro ⟨hopen, hn⟩
      exact ⟨hopen, fun hbelow => hn ⟨hbelow, hopen⟩⟩
    · rintro ⟨hopen, hn⟩
      exact ⟨hopen, fun hbelow => hn hbelow.1⟩
  · intro a
    by_cases hlisted : ∃ n ∈ p.openSubtree m, a ∈ (p.manager n).resources
    · obtain ⟨n, hn, hmem⟩ := hlisted
      constructor
      · intro _
        exact Or.inr ⟨n, hn, hmem⟩
      · intro _
        rw [Pool.isClosed, h.closed hn hmem]
        rfl
    · have hkept : (p.managerClosed m).array a = p.array a :=
        h.kept fun n hn hmem => hlisted ⟨n, hn, hmem⟩
      rw [Pool.isClosed, hkept]
      constructor
      · intro hclosed
        exact Or.inl hclosed
      · intro hclosed
        exact hclosed.resolve_right hlisted
  · intro n hn
    rw [h.spared hn, hp.without_openSubtree hn]
  · intro n hn
    exact h.shut hn
  · intro a ha
    exact h.kept ha
  · exact h.buffers

theorem Orderly.vacant (hp : p.Orderly) : p.Vacant where
  resources _ hn := hp.idle hn
  children _ hn := hp.childless hn
  below n c hn hparent := by
    cases hc : (p.manager c).isOpen with
    | false => rfl
    | true =>
      rw [hp.isOpen_parent hparent hc] at hn
      cases hn
  unlisted _ ha := hp.unlisted_of_isClosed ha

theorem managerClosed_of_closed (hm : (p.manager m).isOpen = false) : p.managerClosed m = p :=
  closedBelow_of_closed _ hm

theorem Ages.ended (h : p.Ages q) (hq : q.Orderly) {n : ManagerId}
    (hn : n.index < p.managers.size) (hclosed : (p.manager n).isOpen = false) :
    Ended p n q := by
  have hend := h.isOpen hn hclosed
  constructor
  · exact hend
  · exact hq.vacant.resources n hend
  · exact hq.vacant.children n hend
  · intro c hparent
    exact ⟨h.parent hn hclosed hparent, hq.vacant.below n c hend hparent⟩
  · exact managerClosed_of_closed hend

/-- In every forest of managers that requests lead to, closing a manager ends and closes exactly
what is open at and below it, with the arrays listed there; what is closed has nothing, and stays
so whatever is asked for later. -/
theorem closing_exact_and_final (requests : List Request) (m : ManagerId) :
    let p := empty.afterAll requests
    (∀ q, Closes p [m] q ↔ q = p.managerClosed m) ∧
      (closeManager m).runFrom p = (.ok (), p.managerClosed m) ∧
      ClosedExactly p m (p.managerClosed m) ∧
      (p.managerClosed m).managerClosed m = p.managerClosed m ∧
      p.Vacant ∧
      ∀ n, n.index < p.managers.size → (p.manager n).isOpen = false →
        ∀ later, Ended p n (p.afterAll later) := by
  intro p
  have hp : p.Orderly := orderly_afterAll requests
  have hexact : ClosedExactly p m (p.managerClosed m) := hp.closedExactly m
  refine ⟨fun q => closes_iff hp m, rfl, hexact, ?_, hp.vacant, ?_⟩
  · apply managerClosed_of_closed
    cases hm : ((p.managerClosed m).manager m).isOpen with
    | false => rfl
    | true => exact absurd .top ((hexact.isOpen m).mp hm).2
  · intro n hn hclosed later
    exact (Ages.afterAll hp later).ended (hp.afterAll later) hn hclosed

end Closing

/-- Three managers below each other, of which the second is closed with the third, and two
arrays. -/
def pruned : List Request :=
  [.newManager .unset, .newSubManager ⟨0⟩ .unset, .newSubManager ⟨1⟩ .unset,
    .create ⟨0⟩ (.ok (Tensor.zeros .float32 [1])) .unset,
    .create ⟨2⟩ (.ok (Tensor.zeros .float32 [1])) .unset, .closeManager ⟨1⟩]

theorem closing_exact_and_final_pruned :
    let p := empty.afterAll pruned
    ClosedExactly p ⟨0⟩ (p.managerClosed ⟨0⟩) ∧
      Ended p ⟨2⟩ (p.afterAll [.newSubManager ⟨2⟩ .unset, .attach ⟨0⟩ ⟨2⟩]) := by
  obtain ⟨-, -, hexact, -, -, hfinal⟩ := closing_exact_and_final pruned ⟨0⟩
  have hended := hfinal ⟨2⟩ (by decide +kernel) (by decide +kernel)
  exact ⟨hexact, hended [.newSubManager ⟨2⟩ .unset, .attach ⟨0⟩ ⟨2⟩]⟩

end Pool

end DataParallel

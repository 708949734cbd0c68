import DataParallel.Proofs.Pool.Closing

/-!
# Who owns an array

An array names its manager, and the manager lists it.  The two agree in every pool that requests
lead to, but for the arrays that a closed manager has refused: an array that goes over to another
manager leaves the list of its old one first, and if the new one refuses it then, it still names the
old manager, which does not list it any more.  Such an array is astray until it is detached, closed
or taken by some manager, and its old manager does not close it.
-/

namespace DataParallel

namespace Pool

/-- An array names a manager that does not list it. -/
def Astray (p : Pool) (a : ArrayId) : Prop :=
  ∃ m, (p.array a).manager = some m ∧ a ∉ (p.manager m).resources

/-- A closed manager refuses an open array of another one. -/
def Request.Severs (p : Pool) (a : ArrayId) : Request → Prop
  | attach b m => b = a ∧ p.isClosed a = false ∧ (p.manager m).isOpen = false ∧
      ∃ old, (p.array a).manager = some old ∧ old ≠ m
  | _ => False

/-- An array is detached or closed, or an open manager that it does not name takes it. -/
def Request.Settles (p : Pool) (a : ArrayId) : Request → Prop
  | attach b m => b = a ∧ (p.manager m).isOpen = true ∧ (p.array a).manager ≠ some m
  | detach b => b = a
  | close b => b = a
  | _ => False

/-- Whether an array was severed from its manager and has not been settled since, after requests
from a pool on, if `severed` says it of this pool. -/
def severedFrom (a : ArrayId) : Pool → Prop → List Request → Prop
  | _, severed, [] => severed
  | p, severed, r :: rest =>
    severedFrom a (r.after p) (r.Severs p a ∨ severed ∧ ¬r.Settles p a) rest

/-- Whether an array was severed from its manager by one of these requests and has not been settled
since. -/
def Severed (requests : List Request) (a : ArrayId) : Prop := severedFrom a empty False requests

section Astray

variable {p q : Pool} {a b : ArrayId} {m : ManagerId}

theorem astray_congr (hmanager : (q.array a).manager = (p.array a).manager)
    (hlists : ∀ m, a ∈ (q.manager m).resources ↔ a ∈ (p.manager m).resources) :
    q.Astray a ↔ p.Astray a := by
  simp only [Astray, hmanager, hlists]

/-- What names nobody is not astray. -/
theorem not_astray_of_manager (ha : (p.array a).manager = none) : ¬p.Astray a := by
  rintro ⟨m, hm, -⟩
  rw [ha] at hm
  cases hm

theorem Orderly.mem_resources (hp : p.Orderly) :
    a ∈ (p.manager m).resources ↔ (p.array a).manager = some m ∧ ¬p.Astray a := by
  constructor
  · intro ha
    refine ⟨hp.owner ha, ?_⟩
    rintro ⟨n, hn, hnot⟩
    have hmn : some m = some n := (hp.owner ha).symm.trans hn
    rw [← Option.some.inj hmn] at hnot
    exact hnot ha
  · rintro ⟨hm, hnot⟩
    by_cases ha : a ∈ (p.manager m).resources
    · exact ha
    · exact absurd ⟨m, hm, ha⟩ hnot

/-- An array that is astray is open, and on no list. -/
theorem Astray.isClosed (hp : p.Orderly) (ha : p.Astray a) : p.isClosed a = false := by
  cases hclosed : p.isClosed a with
  | false => rfl
  | true => exact absurd ha (not_astray_of_manager (hp.unowned hclosed))

theorem Astray.unlisted (hp : p.Orderly) (ha : p.Astray a) : p.Unlisted a :=
  fun _ hmem => (hp.mem_resources.mp hmem).2 ha

/-! ## The changes of a pool -/

theorem SameBonds.astray (h : p.SameBonds q) (a : ArrayId) : q.Astray a ↔ p.Astray a := by
  apply astray_congr (h.manager a)
  intro m
  rw [Pool.manager, Pool.manager, h.managers]

theorem Grown.astray {device : Device} {above : Option ManagerId} (h : Grown device above p q)
    (a : ArrayId) : q.Astray a ↔ p.Astray a := by
  apply astray_congr
  · rw [h.array]
  · intro n
    rw [h.resources]

theorem Orderly.astray_freed_of_ne (hp : p.Orderly) (hab : a ≠ b) :
    (p.freed b).Astray a ↔ p.Astray a := by
  apply astray_congr
  · rw [array_freed]
  · intro n
    rw [hp.manager_freed]
    exact List.mem_erase_of_ne hab

/-- Who leaves a list without being told is astray. -/
theorem Orderly.astray_freed_self (hp : p.Orderly) :
    (p.freed a).Astray a ↔ ∃ old, (p.array a).manager = some old := by
  constructor
  · rintro ⟨old, hold, -⟩
    rw [array_freed] at hold
    exact ⟨old, hold⟩
  · rintro ⟨old, hold⟩
    refine ⟨old, ?_, hp.unlisted_freed a old⟩
    rw [array_freed]
    exact hold

theorem astray_bound_of_ne (hm : (p.manager m).isOpen = true) (hb : p.Unlisted b) (hab : a ≠ b) :
    (p.bound b m).Astray a ↔ p.Astray a := by
  apply astray_congr
  · rw [array_bound_of_ne hab]
  · intro n
    rw [manager_bound hm hb]
    split
    · next hn =>
      rw [hn]
      simp [hab]
    · exact Iff.rfl

theorem not_astray_bound_self (hm : (p.manager m).isOpen = true) (ha : p.isClosed a = false)
    (hlist : p.Unlisted a) : ¬(p.bound a m).Astray a := by
  rintro ⟨n, hn, hnot⟩
  rw [array_bound_self (has_of_isClosed_eq_false ha)] at hn
  rw [← Option.some.inj hn, manager_bound hm hlist, if_pos rfl] at hnot
  exact hnot (List.mem_append_right _ (List.mem_singleton.mpr rfl))

theorem Orderly.astray_created (hp : p.Orderly) (hm : (p.manager m).isOpen = true)
    (device : Device) (t : Contents) : (p.created m device t).Astray a ↔ p.Astray a := by
  have hplaced : p.SameBonds (p.placed (device.or (p.manager m).device) t) :=
    p.sameBonds_addOwning _ _ _
  have hm : ((p.placed (device.or (p.manager m).device) t).manager m).isOpen = true := hm
  have hnew : (p.placed (device.or (p.manager m).device) t).Unlisted p.nextArray := by
    apply (hp.sameBonds hplaced).unlisted_of_manager
    rw [array_placed_next]
  by_cases ha : a = p.nextArray
  · have hopen : (p.placed (device.or (p.manager m).device) t).isClosed p.nextArray = false := by
      rw [isClosed, array_placed_next]
      rfl
    have hdefault : p.array p.nextArray = default := array_of_not_has p (Nat.lt_irrefl _)
    rw [ha]
    apply iff_of_false
    · exact not_astray_bound_self hm hopen hnew
    · apply not_astray_of_manager
      rw [hdefault]
      rfl
  · exact (astray_bound_of_ne hm hnew ha).trans (hplaced.astray a)

theorem Orderly.astray_makes (hp : p.Orderly) (h : p.Makes m q) : q.Astray a ↔ p.Astray a := by
  cases h with
  | inl hsame => rw [hsame]
  | inr hmade =>
    obtain ⟨hopen, device, t, hmade⟩ := hmade
    rw [hmade]
    exact hp.astray_created hopen device t

/-- An array left a list, and knows it. -/
theorem astray_of_erased
    (hmanager : ∀ n, q.manager n =
      { p.manager n with resources := (p.manager n).resources.erase b })
    (harray : ∀ c, c ≠ b → q.array c = p.array c) (hb : (q.array b).manager = none) :
    q.Astray a ↔ p.Astray a ∧ b ≠ a := by
  by_cases hab : a = b
  · rw [hab]
    constructor
    · intro h
      exact absurd h (not_astray_of_manager hb)
    · rintro ⟨-, h⟩
      exact absurd rfl h
  · have hsame : q.Astray a ↔ p.Astray a := by
      apply astray_congr
      · rw [harray a hab]
      · intro n
        rw [hmanager]
        exact List.mem_erase_of_ne hab
    rw [hsame]
    constructor
    · intro h
      exact ⟨h, Ne.symm hab⟩
    · rintro ⟨h, -⟩
      exact h

/-- A manager closes what it lists, and what it lists is not astray. -/
theorem Shuts.astray {S : Set ManagerId} (h : Shuts S p q) (hp : p.Orderly) (a : ArrayId) :
    q.Astray a ↔ p.Astray a := by
  by_cases hlisted : ∃ n ∈ S, a ∈ (p.manager n).resources
  · obtain ⟨n, hn, hmem⟩ := hlisted
    apply iff_of_false
    · apply not_astray_of_manager
      rw [h.closed hn hmem]
    · exact (hp.mem_resources.mp hmem).2
  · apply astray_congr
    · rw [h.kept fun n hn hmem => hlisted ⟨n, hn, hmem⟩]
    · intro n
      by_cases hn : n ∈ S
      · rw [h.shut hn]
        apply iff_of_false
        · exact List.not_mem_nil
        · exact fun hmem => hlisted ⟨n, hn, hmem⟩
      · rw [h.spared hn]

/-! ## One request -/

theorem Orderly.astray_attach (hp : p.Orderly) (b : ArrayId) (m : ManagerId) :
    ((Request.attach b m).after p).Astray a ↔
      (Request.attach b m).Severs p a ∨ p.Astray a ∧ ¬(Request.attach b m).Settles p a := by
  rw [after_attach]
  by_cases hab : b = a
  · subst hab
    cases hclosed : p.isClosed b with
    | true =>
      have hnot : ¬p.Astray b := not_astray_of_manager (hp.unowned hclosed)
      simp [Request.Severs, hclosed, hnot]
    | false =>
      by_cases hm : (p.array b).manager = some m
      · simp [Request.Severs, Request.Settles, hm]
      · have hother : ¬(false = true ∨ (p.array b).manager = some m) := by simp [hm]
        rw [if_neg hother]
        cases hopen : (p.manager m).isOpen with
        | true =>
          have hfreed : ((p.freed b).manager m).isOpen = true := by
            rw [hp.manager_freed]
            exact hopen
          have hheld : (p.freed b).isClosed b = false := by
            rw [isClosed, array_freed]
            exact hclosed
          have hnot := not_astray_bound_self hfreed hheld (hp.unlisted_freed b)
          simp [Request.Severs, Request.Settles, hm, hopen, hnot]
        | false =>
          -- The array has left the list of the manager that it names.
          have hfreed := hp.astray_freed_self (a := b)
          cases hmanager : (p.array b).manager with
          | none =>
            have hnot : ¬p.Astray b := not_astray_of_manager hmanager
            simp [Request.Severs, hmanager, hnot, hfreed]
          | some old =>
            have hne : old ≠ m := by
              rintro rfl
              exact hm hmanager
            simp [Request.Severs, hclosed, hopen, hmanager, hne, hfreed]
  · have hnone : ¬(Request.attach b m).Severs p a ∧ ¬(Request.attach b m).Settles p a := by
      simp [Request.Severs, Request.Settles, hab]
    have hsame : p.Astray a ↔
        (Request.attach b m).Severs p a ∨ p.Astray a ∧ ¬(Request.attach b m).Settles p a := by
      simp [hnone]
    rw [← hsame]
    split
    · exact Iff.rfl
    · split
      · next hopen =>
        have hfreed : ((p.freed b).manager m).isOpen = true := by
          rw [hp.manager_freed]
          exact hopen
        have hbound := astray_bound_of_ne hfreed (hp.unlisted_freed b) (Ne.symm hab)
        exact hbound.trans (hp.astray_freed_of_ne (Ne.symm hab))
      · exact hp.astray_freed_of_ne (Ne.symm hab)

/-- A request leads an array astray or lets it be, unless it settles it. -/
theorem Orderly.astray_after (hp : p.Orderly) (r : Request) (a : ArrayId) :
    (r.after p).Astray a ↔ r.Severs p a ∨ p.Astray a ∧ ¬r.Settles p a := by
  have hquiet : ∀ {q : Pool}, (q.Astray a ↔ p.Astray a) →
      (q.Astray a ↔ False ∨ p.Astray a ∧ ¬False) := by
    intro q h
    simp [h]
  cases r with
  | newManager device => exact hquiet ((grown_addManager p _).astray a)
  | newSubManager m device =>
    apply hquiet
    rw [after_newSubManager]
    split
    · next hopen => exact (grown_withSubManager hopen device).astray a
    · exact Iff.rfl
  | create m contents device => exact hquiet (hp.astray_makes (makes_create p m contents device))
  | createFilled m contents => exact hquiet (hp.astray_makes (makes_createFilled p m contents))
  | attach b m => exact hp.astray_attach b m
  | detach b =>
    have herased : (p.detached b).Astray a ↔ p.Astray a ∧ b ≠ a := by
      apply astray_of_erased
      · intro n
        rw [manager_detached, hp.manager_freed]
      · intro c hc
        rw [array_detached, if_neg hc]
      · rw [array_detached, if_pos rfl]
    exact herased.trans (Iff.of_eq (false_or _)).symm
  | close b =>
    have herased : (p.closed b).Astray a ↔ p.Astray a ∧ b ≠ a := by
      apply astray_of_erased (hp.manager_closed b)
      · intro c hc
        rw [hp.array_closed, if_neg hc]
      · rw [hp.array_closed, if_pos rfl]
    exact herased.trans (Iff.of_eq (false_or _)).symm
  | closeManager m => exact hquiet ((shuts_managerClosed hp m).astray hp a)
  | _ => exact hquiet ((sameBonds_after p rfl).astray a)

/-! ## A whole run -/

theorem Orderly.astray_afterAll (hp : p.Orderly) {severed : Prop} (hsevered : p.Astray a ↔ severed)
    (requests : List Request) :
    (p.afterAll requests).Astray a ↔ severedFrom a p severed requests := by
  induction requests generalizing p severed with
  | nil => exact hsevered
  | cons r rest ih =>
    apply ih (hp.after r)
    rw [hp.astray_after r a, hsevered]

/-- The arrays that are astray are those that were severed from their managers. -/
theorem astray_iff_severed (requests : List Request) (a : ArrayId) :
    (empty.afterAll requests).Astray a ↔ Severed requests a := by
  apply orderly_empty.astray_afterAll
  apply iff_false_intro
  exact not_astray_of_manager rfl

/-- A manager closes the arrays that name it, but for those that are astray. -/
theorem Orderly.isClosed_managerClosed (hp : p.Orderly) (hm : (p.array a).manager = some m) :
    (p.managerClosed m).isClosed a = true ↔ ¬p.Astray a := by
  rw [(hp.closedExactly m).isClosed]
  constructor
  · intro h hastray
    cases h with
    | inl hclosed =>
      rw [hastray.isClosed hp] at hclosed
      cases hclosed
    | inr hlisted =>
      obtain ⟨n, -, hmem⟩ := hlisted
      exact hastray.unlisted hp n hmem
  · intro hnot
    have hmem := hp.mem_resources.mpr ⟨hm, hnot⟩
    exact Or.inr ⟨m, ⟨.top, hp.isOpen_of_mem hmem⟩, hmem⟩

/-- What a refused array leaves behind: no array changes, and only the severed one leaves a
list. -/
structure Refused (p : Pool) (a : ArrayId) (m : ManagerId) (q : Pool) : Prop where
  array : ∀ b, q.array b = p.array b
  unless_severed : ¬(Request.attach a m).Severs p a → q = p
  manager : (Request.attach a m).Severs p a → ∀ n, q.manager n =
    { p.manager n with resources := (p.manager n).resources.erase a }

theorem Orderly.refused (hp : p.Orderly) {fault : Fault}
    (hrun : (Pool.attach a m).runFrom p = (.error fault, q)) : Refused p a m q := by
  cases hclosed : p.isClosed a with
  | true =>
    rw [runFrom_attach_closed hclosed] at hrun
    cases hrun
    refine ⟨fun _ => rfl, fun _ => rfl, ?_⟩
    rintro ⟨-, hopen, -⟩
    rw [hclosed] at hopen
    cases hopen
  | false =>
    by_cases hm : (p.array a).manager = some m
    · rw [runFrom_attach_same hclosed hm] at hrun
      cases hrun
    · rw [runFrom_attach_other hclosed hm] at hrun
      cases hopen : (p.manager m).isOpen with
      | true =>
        rw [hopen] at hrun
        cases hrun
      | false =>
        rw [hopen] at hrun
        cases hrun
        refine ⟨array_freed a, ?_, fun _ => hp.manager_freed a⟩
        intro hnot
        cases hmanager : (p.array a).manager with
        | none => rw [Pool.freed, hmanager]
        | some old =>
          have hne : old ≠ m := by
            rintro rfl
            exact hm hmanager
          exact absurd ⟨rfl, hclosed, hopen, old, hmanager, hne⟩ hnot

/-- In every pool that requests lead to, failing ones among them, a manager lists the arrays that
name it, but for those that were severed from it; these it does not close either. -/
theorem owned_unless_severed (requests : List Request) :
    let p := empty.afterAll requests
    (∀ a m, a ∈ (p.manager m).resources ↔
        (p.array a).manager = some m ∧ ¬Severed requests a) ∧
      (∀ a m n, a ∈ (p.manager m).resources → a ∈ (p.manager n).resources → m = n) ∧
      (∀ a m fault q, (attach a m).runFrom p = (.error fault, q) → Refused p a m q) ∧
      ∀ a m, (p.array a).manager = some m →
        ((p.managerClosed m).isClosed a = true ↔ ¬Severed requests a) := by
  intro p
  have hp : p.Orderly := orderly_afterAll requests
  have hastray : ∀ a, p.Astray a ↔ Severed requests a := astray_iff_severed requests
  refine ⟨?_, ?_, ?_, ?_⟩
  · intro a m
    rw [← hastray]
    exact hp.mem_resources
  · intro a m n hm hn
    exact hp.eq_of_mem hm hn
  · intro a m fault q hrun
    exact hp.refused hrun
  · intro a m hm
    rw [← hastray]
    exact hp.isClosed_managerClosed hm

end Astray

/-- An array of the first manager is refused by the second one, which is closed. -/
def refusal : List Request :=
  [.newManager .unset, .newManager .unset, .create ⟨0⟩ (.ok (Tensor.zeros .float32 [1])) .unset,
    .closeManager ⟨1⟩, .attach ⟨0⟩ ⟨1⟩]

/-- The refused array names its manager, which does not list it and does not close it. -/
theorem refused_left_open :
    let p := empty.afterAll refusal
    (p.array ⟨0⟩).manager = some ⟨0⟩ ∧ ⟨0⟩ ∉ (p.manager ⟨0⟩).resources ∧
      (p.managerClosed ⟨0⟩).isClosed ⟨0⟩ = false := by
  decide +kernel

end Pool

end DataParallel

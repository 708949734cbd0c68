import DataParallel.Pool.Manager
import DataParallel.Proofs.Pool.Copy

/-!
# New arrays of a manager

An open manager makes a new array that holds the given contents and nothing else, and leaves
everything that was in the pool as it was.  A gradient does not change what its array holds.
-/

namespace DataParallel

namespace Pool

/-- The pool with contents in a new array. -/
def placed (p : Pool) (device : Device) (t : Contents) : Pool :=
  (p.addOwning (device.or .cpu) ⟨t, .rowMajor⟩ t.shape).2

/-- The pool with contents in a new array of a manager. -/
def created (p : Pool) (m : ManagerId) (device : Device) (t : Contents) : Pool :=
  (p.placed (device.or (p.manager m).device) t).bound p.nextArray m

section Created

variable {p : Pool} {m : ManagerId} {device : Device} {t : Contents}

theorem array_placed_next :
    (p.placed device t).array p.nextArray =
      ⟨device.or .cpu, none, some ⟨p.nextBuffer, t.shape, none⟩⟩ :=
  array_addOwning_next

theorem runFrom_create (hopen : (p.manager m).isOpen = true) :
    (create m (.ok t) device).runFrom p = (.ok p.nextArray, p.created m device t) := by
  have hcheck : (checkOpen m).runFrom p = (.ok (), p) := by
    rw [checkOpen, Step.runFrom_bind_of_ok (Step.runFrom_get p), hopen]
    rfl
  have hplace : (place (device.or (p.manager m).device) t).runFrom p =
      (.ok p.nextArray, p.placed (device.or (p.manager m).device) t) := rfl
  have hattach : (attach p.nextArray m).runFrom (p.placed (device.or (p.manager m).device) t) =
      (.ok (), p.created m device t) := by
    rw [runFrom_attach_unbound (by rw [array_placed_next]) (by rw [array_placed_next])]
    exact if_pos hopen
  rw [create, Step.runFrom_bind_of_ok hcheck,
    Step.runFrom_bind_of_ok (Step.runFrom_ofExcept _ _),
    Step.runFrom_bind_of_ok (Step.runFrom_get p), Step.runFrom_bind_of_ok hplace,
    Step.runFrom_bind_of_ok hattach]
  rfl

theorem extends_created : p.Extends (p.created m device t) :=
  (extends_addOwning rfl).bound (Nat.lt_irrefl _) m

theorem holding_created_next :
    ((p.created m device t).array p.nextArray).holding =
      some ⟨p.nextBuffer, t.shape, none⟩ := by
  rw [created, holding_bound, array_placed_next]

theorem items?_created_next : (p.created m device t).items? p.nextArray = some t := by
  have hbuffer : (p.created m device t).buffer p.nextBuffer = ⟨t, .rowMajor⟩ := by
    rw [created, bound, buffer_updateArray, buffer_updateManager, placed, buffer_addOwning_next]
  rw [items?_of_holding holding_created_next, hbuffer, Contents.withShape_shape]

theorem contents?_created_next {t : Tensor} :
    (p.created m device t).contents? p.nextArray = some t :=
  contents?_eq_some.mpr items?_created_next

end Created

theorem items?_tracked_self {p : Pool} (hp : p.Sound) {a : ArrayId} {h : Holding}
    (hh : (p.array a).holding = some h) : (p.tracked a h).items? a = p.items? a := by
  rw [items?, items?, array_tracked_self (has_of_holding hh), hh, Option.map_some,
    Option.map_some, buffer_tracked_of_lt (hp.buffer_lt hh)]

end Pool

end DataParallel

import DataParallel.Proofs.Pool.Creation
import DataParallel.Proofs.Pool.Operations

/-!
# Selected rows and other shapes

Gathering makes a new array of the rows, and reshaping a view or a copy of the elements in another
shape.  Neither touches an array that was there before.
-/

namespace DataParallel

open Step (runFrom_bind_of_ok)

namespace Pool

variable {p : Pool}

/-! ## New arrays -/

theorem items?_addOwning_next (device : Device) (c : Contents) :
    (p.addOwning device ⟨c, .rowMajor⟩ c.shape).2.items? p.nextArray = some c := by
  rw [items?_of_holding holding_addOwning_next, buffer_addOwning_next, Contents.withShape_shape]

theorem items?_placed_next (device : Device) (c : Contents) :
    (p.placed device c).items? p.nextArray = some c :=
  items?_addOwning_next (device.or .cpu) c

theorem runFrom_read_of_contents? {a : ArrayId} {t : Tensor} (ht : p.contents? a = some t) :
    (read a).runFrom p = (.ok t, p) := by
  rw [runFrom_read, ht]
  rfl

/-! ## Rows -/

theorem runFrom_gather {a indices : ArrayId} {c rows : Contents} {u : Tensor}
    (hc : p.items? a = some c) (hu : p.contents? indices = some u) (hrows : c.take u = .ok rows) :
    (gather a indices).runFrom p = (.ok p.nextArray, p.placed (p.array a).device rows) := by
  rw [gather, runFrom_bind_of_ok (runFrom_items hc),
    runFrom_bind_of_ok (runFrom_read_of_contents? hu), hrows,
    runFrom_bind_of_ok (Step.runFrom_ofExcept _ _), runFrom_bind_of_ok (Step.runFrom_get _)]
  rfl

/-! ## Other shapes -/

/-- The new array has the elements in the other shape, whether it shares their buffer or not. -/
theorem runFrom_reshape {a : ArrayId} {c d : Contents} {dims : List Int}
    (hc : p.items? a = some c) (hd : c.reshape dims = .ok d) :
    ∃ q, (reshape a dims).runFrom p = (.ok p.nextArray, q) ∧ p.Extends q ∧
      q.items? p.nextArray = some d := by
  obtain ⟨h, hh, hcontents⟩ := Option.map_eq_some_iff.mp hc
  have hsource : (p.buffer h.buffer).contents.withShape d.shape = d := by
    obtain ⟨shape, -, hshape⟩ := exists_of_bind_eq_ok hd
    rw [← Except.ok.inj hshape, ← hcontents]
    exact Contents.withShape_twice _ _ _
  have hsize : (p.buffer h.buffer).contents.size = d.size := by
    rw [Contents.size_of_reshape hd, ← hcontents, Contents.size_withShape]
  rw [reshape, runFrom_bind_of_ok (runFrom_held hh), runFrom_bind_of_ok (runFrom_items hc), hd,
    runFrom_bind_of_ok (Step.runFrom_ofExcept _ _), Step.runFrom_modifyGet]
  dsimp only
  split
  · refine ⟨_, rfl, extends_addArray fun hp k hk => ?_, ?_⟩
    · rw [← Option.some.inj hk]
      exact ⟨rfl, hp.buffer_lt (h := h) hh, hsize⟩
    · have hnew : ((p.addArray ⟨(p.array a).device, none, some ⟨h.buffer, d.shape, none⟩⟩).2.array
          p.nextArray) = ⟨(p.array a).device, none, some ⟨h.buffer, d.shape, none⟩⟩ := by
        rw [array_addArray, if_pos rfl]
      rw [items?, hnew, Option.map_some]
      exact congrArg some hsource
  · exact ⟨_, rfl, extends_addOwning rfl, items?_addOwning_next _ d⟩

end Pool

end DataParallel

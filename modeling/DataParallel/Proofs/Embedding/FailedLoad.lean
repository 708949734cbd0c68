import DataParallel.Proofs.Embedding.Weight

/-!
# Failed loads

Much can be wrong with a stream, and a load that fails leaves the parameter and everything on the
host alone, with two exceptions.  Contents of another shape than the array are to come into a new
array, and the old one is dropped before the manager is asked for it: if the manager is closed, the
parameter is left without an array.  Contents of the same shape are converted one by one: if their
items are no numbers and one of them cannot be converted, those before it have been written.
-/

namespace DataParallel

open Step

namespace Parameter

variable {m : ManagerId} {c : Contents} {bs : Stream} {q q' : Parameter} {h h' : Host}
  {fault : Fault}

/-- The contents are to come into a new array of a closed manager, in place of an open array. -/
def Severs (m : ManagerId) (c : Contents) (q : Parameter) (h : Host) : Prop :=
  (h.pool.manager m).isOpen = false ∧
    ∃ a old, q.array = some a ∧ h.pool.items? a = some old ∧ old.shape ≠ c.shape

/-- The contents have the shape of the open array `a`, but converting them to its items fails and
leaves `written` in its buffer.  One of the two holds items that are no numbers. -/
structure Spoils (c : Contents) (q : Parameter) (h : Host) (fault : Fault) (a : ArrayId)
    (k : Holding) (old written : Contents) : Prop where
  array : q.array = some a
  holding : (h.pool.array a).holding = some k
  items : h.pool.items? a = some old
  shape : old.shape = c.shape
  fits : c.shape = k.shape
  write : h.conversion.write (h.pool.buffer k.buffer).order old c = (written, .error fault)
  other : old.tensor? = none ∨ c.tensor? = none

/-- What a load can leave that fails with contents which a stream brings, other than what was
there. -/
inductive Damaged (m : ManagerId) (brought : Option Contents) (q : Parameter) (h : Host) :
    Fault → Parameter → Host → Prop where
  | severed {c : Contents} (hbrought : brought = some c) (hsevers : Severs m c q h) :
    Damaged m brought q h .managerClosed { q with array := none } h
  | spoiled {c : Contents} {fault : Fault} {a : ArrayId} {k : Holding} {old written : Contents}
    (hbrought : brought = some c) (hspoils : Spoils c q h fault a k old written) :
    Damaged m brought q h fault q { h with pool := h.pool.converted k.buffer written }

/-! ## Contents that are not taken -/

/-- Contents that sever are refused, and the array is dropped. -/
theorem Severs.accept (hsevers : Severs m c q h) :
    (accept m c).runFrom (q, h) = (.error .managerClosed, { q with array := none }, h) := by
  obtain ⟨hclosed, a, old, harray, hold, hshape⟩ := hsevers
  rw [accept_other_shape harray hold hshape]
  exact runFrom_create_closed (Bool.not_eq_true _ ▸ hclosed)

/-- Contents that spoil are refused, and what could be converted is written. -/
theorem Spoils.accept {a : ArrayId} {k : Holding} {old written : Contents}
    (hspoils : Spoils c q h fault a k old written) :
    (accept m c).runFrom (q, h) =
      (.error fault, q, { h with pool := h.pool.converted k.buffer written }) := by
  have hwrites := runFrom_second_overwrite (q := q)
    (Pool.runFrom_overwrite h.conversion hspoils.holding hspoils.items hspoils.fits)
  rw [hspoils.write] at hwrites
  exact (accept_into hspoils.array hspoils.items hspoils.shape).trans hwrites

theorem Damaged.accept (hdamaged : Damaged m (some c) q h fault q' h') :
    (accept m c).runFrom (q, h) = (.error fault, q', h') := by
  cases hdamaged with
  | severed hbrought hsevers =>
    obtain rfl := Option.some.inj hbrought
    exact hsevers.accept
  | spoiled hbrought hspoils =>
    obtain rfl := Option.some.inj hbrought
    exact hspoils.accept

theorem Damaged.exists_brought {brought : Option Contents}
    (hdamaged : Damaged m brought q h fault q' h') : ∃ c, brought = some c := by
  cases hdamaged with
  | severed hbrought => exact ⟨_, hbrought⟩
  | spoiled hbrought => exact ⟨_, hbrought⟩

/-! ## Streams that are not loaded -/

theorem Damaged.load (hdamaged : Damaged m (incoming bs q.name) q h fault q' h') : ∃ rest,
    (load m).runFrom (bs, q, h) = (.error fault, rest, q', h') := by
  obtain ⟨c, hc⟩ := hdamaged.exists_brought
  rw [hc] at hdamaged
  obtain ⟨rest, hload⟩ := load_of_incoming (m := m) (h := h) hc
  exact ⟨rest, by rw [hload, runFrom_second, hdamaged.accept]⟩

end Parameter

namespace Embedding

variable {m : ManagerId} {bs : Stream} {e e' : Embedding} {h h' : Host} {fault : Fault}

end Embedding

end DataParallel

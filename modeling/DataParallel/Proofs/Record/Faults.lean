import DataParallel.Proofs.Record.Frame

/-!
# Faults behind the marker of a record

The parts of a record are looked at one after the other: the packed header, the name of the item
type, the dimensions, and the payload.  For each part, only a few faults are possible, and the kinds
of the parts are those of what the parts are read with.
-/

namespace DataParallel

variable {α β : Type} {kind : Fault → Prop}

/-- If the result is a fault, it is of a kind. -/
def FailsOnly (kind : Fault → Prop) (result : Except Fault α) : Prop :=
  ∀ fault, result = .error fault → kind fault

namespace FailsOnly

theorem ok (a : α) : FailsOnly kind (.ok a) := nofun

theorem pure (a : α) : FailsOnly kind (Pure.pure a : Except Fault α) := nofun

theorem error {fault : Fault} (h : kind fault) :
    FailsOnly kind (.error fault : Except Fault α) := by
  rintro _ ⟨⟩
  exact h

theorem throw {fault : Fault} (h : kind fault) :
    FailsOnly kind (MonadExcept.throw fault : Except Fault α) :=
  error h

theorem bind {x : Except Fault α} {f : α → Except Fault β} (hx : FailsOnly kind x)
    (hf : ∀ a, x = .ok a → FailsOnly kind (f a)) : FailsOnly kind (x >>= f) := by
  rcases x with fault | a
  · intro _ h
    exact hx _ (congrArg Except.error (Except.error.inj h))
  · exact hf a rfl

theorem mono {kind' : Fault → Prop} {x : Except Fault α} (hx : FailsOnly kind x)
    (h : ∀ fault, kind fault → kind' fault) : FailsOnly kind' x :=
  fun fault hfault => h fault (hx fault hfault)

theorem elim {x : Option α} {fault : Fault} {f : α → Except Fault β} (h : kind fault)
    (hf : ∀ a, FailsOnly kind (f a)) : FailsOnly kind (x.elim (.error fault) f) := by
  rcases x with _ | a
  · exact error h
  · exact hf a

theorem ite {p : Prop} [Decidable p] {x y : Except Fault α} (hx : FailsOnly kind x)
    (hy : FailsOnly kind y) : FailsOnly kind (if p then x else y) := by
  split
  · exact hx
  · exact hy

theorem mapM {f : α → Except Fault β} {as : List α} (hf : ∀ a ∈ as, FailsOnly kind (f a)) :
    FailsOnly kind (as.mapM f) := by
  induction as with
  | nil => exact pure _
  | cons a as ih =>
    rw [List.mapM_cons]
    refine bind (hf a List.mem_cons_self) fun _ _ => bind (ih fun b hb => ?_) fun _ _ => pure _
    exact hf b (List.mem_cons_of_mem _ hb)

end FailsOnly

/-! ## Packed messages -/

namespace MessagePack

section Nested

variable {one : List UInt8 → Except Fault (Value × List UInt8)}

end Nested

end MessagePack

/-! ## Item types -/

namespace ItemFormat

end ItemFormat

namespace ItemType

end ItemType

/-! ## Dimensions -/

namespace Tensor

mutual

/-- Together with the shape that several values have in common. -/
theorem literalShape_failsOnly : (v : Value) → FailsOnly (· = .badValue) (literalShape v)
  | .list vs => by
    rw [literalShape]
    exact (commonShape_failsOnly vs).bind fun _ _ => .pure _
  | .tuple vs => by
    rw [literalShape]
    exact (commonShape_failsOnly vs).bind fun _ _ => .pure _
  | .null | .bool _ | .int _ | .float _ | .text _ | .broken _ | .bytes _ | .record _ | .array _
  | .extension _ _ | .timestamp _ _ => by
    rw [literalShape]
    · exact .ok _
    all_goals nofun

theorem commonShape_failsOnly : (vs : List Value) → FailsOnly (· = .badValue) (commonShape vs)
  | [] => .ok _
  | [v] => by
    rw [commonShape]
    exact literalShape_failsOnly v
  | v :: w :: vs => by
    rw [commonShape]
    · refine (literalShape_failsOnly v).bind fun _ _ =>
        (commonShape_failsOnly (w :: vs)).bind fun _ _ => .ite (.pure _) (.throw rfl)
    · nofun

end

end Tensor

namespace Record

end Record

end DataParallel

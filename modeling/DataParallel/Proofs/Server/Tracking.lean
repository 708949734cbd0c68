import DataParallel.Proofs.Server.Watched

/-!
# Servers that leave gradients in place

A push hands gradients to a server, which reads them.  While several parameters
are pushed one after the other, what a push does to the arrays of the others
matters: a server must not close them or give them other gradients.
-/

namespace DataParallel

open Step

/-- The arrays are open and have gradients, which are these. -/
def Pool.Tracked (p : Pool) (arrays gs : List ArrayId) : Prop :=
  arrays.map p.gradient? = gs.map some

theorem Pool.tracked_filterMap {p : Pool} {arrays : List ArrayId}
    (h : ∀ a ∈ arrays, (p.gradient? a).isSome) :
    p.Tracked arrays (arrays.filterMap p.gradient?) := by
  induction arrays with
  | nil => rfl
  | cons a rest ih =>
    obtain ⟨ha, hrest⟩ := List.forall_mem_cons.mp h
    obtain ⟨g, hg⟩ := Option.isSome_iff_exists.mp ha
    rw [List.filterMap_cons, hg, Tracked, List.map_cons, List.map_cons, hg, ih hrest]

/-- All arrays have the same gradients, or none, in both hosts. -/
def Host.SameGradients (h k : Host) : Prop := k.pool.gradient? = h.pool.gradient?

instance : IsPreorder Host Host.SameGradients where
  refl _ := rfl
  trans _ _ _ hhk hkl := hkl.trans hhk

/-- No push of the server gives an array a gradient or takes one from it. -/
class KeepsGradients (σ : Type) [ParameterServer σ] : Prop where
  push : ∀ id gradients priority, Along (Beside Host.SameGradients)
    (ParameterServer.push id gradients priority : Step (σ × Host) Unit)

instance : KeepsGradients LocalServer where
  push := LocalServer.along_push

instance : KeepsGradients RecordingServer where
  push := RecordingServer.along_push

instance {σ : Type} [ParameterServer σ] [KeepsGradients σ] : KeepsGradients (Watched σ) where
  push id gradients priority := Watched.along_call (KeepsGradients.push id gradients priority)

end DataParallel

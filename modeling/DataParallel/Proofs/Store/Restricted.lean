import DataParallel.Proofs.Store.Consistent
import DataParallel.Proofs.Store.Unseen

/-!
# Entries do not see each other

What a store does for a parameter depends on the entry of this parameter alone.
It does the same with all other entries gone, and the entry is the same
afterwards.  A round sees the entries of trainable parameters only.
-/

namespace DataParallel

open Step

namespace Store

variable {σ : Type}

/-- The store with the entries of some parameters only. -/
def restricted (keep : String → Bool) (s : Store σ) : Store σ :=
  { s with entries := s.entries.filter fun entry => keep entry.1 }

theorem mirrors_onServer_restricted (keep : String → Bool) (step : Step (σ × Host) Unit) :
    Mirrors (besideHost (restricted keep)) (onServer step) (onServer step) := by
  rintro ⟨⟨manager, copy, registry, entries, server⟩, h⟩
  rcases server with _ | v
  · rfl
  · rfl

variable [ParameterServer σ]

theorem unseen_restricted {keep : String → Bool} {name : String} (hkeep : keep name = true) :
    Unseen (restricted keep : Store σ → Store σ) name where
  manager _ := rfl
  copy _ := rfl
  registry _ := rfl
  server _ := rfl
  entry s := Keyed.lookup_filter keep s.entries hkeep
  opened s e := by
    rw [restricted, Keyed.filter_put keep e s.entries hkeep]
    rfl
  updated s g := by
    rw [restricted, updateEntry, Keyed.filter_change]
    rfl
  init _ := mirrors_onServer_restricted keep _
  push _ _ := mirrors_onServer_restricted keep _
  pull _ _ := mirrors_onServer_restricted keep _

omit [ParameterServer σ] in
theorem trainable_restricted {keep : String → Bool} {s : Store σ}
    (hkeep : ∀ id ∈ s.trainable, keep id = true) :
    (s.restricted keep).trainable = s.trainable := by
  have hsame : (s.entries.filter fun entry => keep entry.1).filter (·.2.trainable) =
      s.entries.filter (·.2.trainable) := by
    rw [List.filter_filter]
    refine List.filter_congr fun entry hmem => ?_
    rcases htrainable : entry.2.trainable
    · rfl
    · have hid : entry.1 ∈ s.trainable :=
        List.mem_map.mpr ⟨entry, List.mem_filter.mpr ⟨hmem, htrainable⟩, rfl⟩
      rw [hkeep entry.1 hid, Bool.true_and]
  exact congrArg (List.map Prod.fst) hsame

/-- A round does not see the entries of frozen parameters. -/
theorem updateAll_restricted {keep : String → Bool} {x : Store σ × Host}
    (hkeep : ∀ id ∈ x.1.trainable, keep id = true) :
    updateAll.runFrom (besideHost (restricted keep) x) =
      ((updateAll.runFrom x).1, besideHost (restricted keep) (updateAll.runFrom x).2) :=
  runFrom_updateAll_unseen rfl (trainable_restricted hkeep)
    fun name hmem => unseen_restricted (hkeep name hmem)

end Store

end DataParallel

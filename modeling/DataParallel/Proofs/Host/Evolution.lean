import DataParallel.Parameter.Basic
import DataParallel.Proofs.Pool.Operations

/-!
# Hosts evolve with their pools

Of what the components of a program share, only the pool matters for the
identity of arrays.  A parameter that is set up, loaded or closed lets the
pool evolve.
-/

namespace DataParallel

namespace Host

open Step

variable {α : Type}

/-- The pool evolves; the journal and the draws may be anything. -/
def Evolves (h k : Host) : Prop := h.pool.Evolves k.pool

instance : IsPreorder Host Evolves where
  refl h := Pool.Evolves.refl h.pool
  trans _ _ _ := Pool.Evolves.trans

/-- What a program leads to from its beginning is sound. -/
theorem sound_of_reached {h : Host} (hreached : Host.empty.Evolves h) : h.pool.Sound :=
  Pool.Evolves.sound hreached Pool.sound_empty

theorem along_onPool {step : Step Pool α} (h : Along Pool.Evolves step) :
    Along Evolves (onPool step) :=
  fun host => h host.pool

/-- Reading changes nothing at all. -/
theorem along_read {R : Host → Host → Prop} [IsPreorder Host R] (a : ArrayId) :
    Along R (onPool (Pool.read a)) := by
  intro h
  have hsame : ((onPool (Pool.read a)).runFrom h).2 = h := by
    rw [onPool, runFrom_within, Pool.runFrom_read]
  rw [hsame]
  exact Std.Refl.refl h

theorem along_overwrite (a : ArrayId) (c : Contents) : Along Evolves (overwrite a c) :=
  along_bind along_get fun h => along_onPool (Pool.along_overwrite h.conversion a c)

theorem along_onDraws (step : Step Draws α) : Along Evolves (onDraws step) :=
  fun host => Pool.Evolves.refl host.pool

theorem along_onJournal (step : Step Journal α) : Along Evolves (onJournal step) :=
  fun host => Pool.Evolves.refl host.pool

/-- The logger of a component can always be made with its usual level. -/
theorem exists_openLogger (component : String) (h : Host) :
    ∃ k, k.pool = h.pool ∧
      (onJournal (Journal.openLogger component)).runFrom h = (.ok (), k) := by
  have hjournal : ∀ j, ∃ j', (Journal.openLogger component).runFrom j = (.ok (), j') := by
    intro j
    rw [Journal.openLogger, runFrom_bind_of_ok (runFrom_get _)]
    split
    · exact ⟨j, rfl⟩
    · exact ⟨_, rfl⟩
  obtain ⟨j, hj⟩ := hjournal h.journal
  refine ⟨{ h with journal := j }, rfl, ?_⟩
  rw [onJournal, runFrom_within, hj]

theorem along_note (component : String) (severity : Severity) (message : String) :
    Along Evolves (note component severity message) :=
  along_onJournal _

end Host

/-! ## Parameters -/

namespace Parameter

open Step

theorem along_adopt (m : ManagerId) (c : Contents) :
    Along (Beside Host.Evolves) (adopt m c) := by
  have hcreate := along_second (σ := Parameter)
    (Host.along_onPool (Pool.along_create m (.ok c) .unset))
  refine along_bind hcreate fun a => along_bind along_get fun x => ?_
  have hput := along_modify_first (R := Host.Evolves)
    fun x : Parameter × Host => { x.1 with array := some a }
  split
  · exact along_bind
      (along_second (Host.along_onPool (Pool.along_attachGradient a))) fun _ => hput
  · exact hput

/-- Setting up lets the pool evolve, also when the initial contents cannot be
made. -/
theorem along_setUp (m : ManagerId) (shape dtype : Value) :
    Along (Beside Host.Evolves) (setUp m shape dtype) := by
  refine along_bind along_get fun x => ?_
  dsimp only
  split
  · exact along_pure _
  · exact along_bind (along_second (Host.along_onDraws _)) fun t => along_adopt m t

theorem along_accept (m : ManagerId) (c : Contents) :
    Along (Beside Host.Evolves) (accept m c) := by
  refine along_bind along_get fun x => ?_
  split
  · exact along_adopt m c
  · next a _ =>
    refine along_bind (along_second (Host.along_onPool (Pool.along_items a))) fun old => ?_
    split
    · exact along_second (Host.along_overwrite a c)
    · exact along_bind
        (along_modify_first fun x : Parameter × Host => { x.1 with array := none })
        fun _ => along_adopt m c

/-- Loading a parameter from a stream lets the pool evolve, also when the
stream or the shape is refused. -/
theorem along_load (m : ManagerId) : Along (Beside (Beside Host.Evolves)) (load m) := by
  refine along_bind (along_first (readByte .parameterStreamEnd)) fun v => ?_
  split
  · exact along_throw_bind _
  refine along_bind (along_first (readByte .parameterStreamEnd)) fun mark => ?_
  split
  · exact along_pure _
  refine along_bind (along_first Record.readContents) fun record => along_bind along_get fun x => ?_
  dsimp only
  split
  · exact along_throw_bind _
  · exact along_second (along_accept m record.2)

end Parameter

end DataParallel

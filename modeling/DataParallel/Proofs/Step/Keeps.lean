import DataParallel.Step

/-!
# Steps that keep a property even when they fail

What was changed before a fault stays changed, so a property of the state that holds always must
also survive the runs that fail.  What is known of the result of a part that succeeds is carried
along to the next part.
-/

namespace DataParallel

namespace Step

variable {σ α β : Type}

/-- A run that begins with `I` ends with `I`, and its result, if there is one, has `Q`. -/
def Keeps (I : σ → Prop) (step : Step σ α) (Q : α → Prop) : Prop :=
  ∀ s, I s → I (step.runFrom s).2 ∧ ∀ a, (step.runFrom s).1 = .ok a → Q a

variable {I : σ → Prop} {P : α → Prop} {Q : β → Prop}

theorem keeps_pure {a : α} (h : P a) : Keeps I (pure a : Step σ α) P := by
  intro s hs
  constructor
  · exact hs
  · intro b hb
    rw [← Except.ok.inj hb]
    exact h

theorem keeps_ofExcept {result : Except Fault α} (h : ∀ a, result = .ok a → P a) :
    Keeps I (ofExcept result : Step σ α) P :=
  fun _ hs => ⟨hs, h⟩

theorem keeps_modify {f : σ → σ} (h : ∀ s, I s → I (f s)) :
    Keeps I (modify f : Step σ PUnit) fun _ => True :=
  fun s hs => ⟨h s hs, fun _ _ => trivial⟩

theorem keeps_bind {step : Step σ α} {next : α → Step σ β} (hstep : Keeps I step P)
    (hnext : ∀ a, P a → Keeps I (next a) Q) : Keeps I (step >>= next) Q := by
  intro s hs
  obtain ⟨hstate, hresult⟩ := hstep s hs
  rw [runFrom_bind]
  rcases hrun : step.runFrom s with ⟨fault | a, s'⟩
  · rw [hrun] at hstate
    constructor
    · exact hstate
    · intro b hb
      cases hb
  · rw [hrun] at hstate hresult
    exact hnext a (hresult a rfl) s' hstate

theorem Keeps.mono {P' : α → Prop} {step : Step σ α} (h : Keeps I step P)
    (hP : ∀ a, P a → P' a) : Keeps I step P' :=
  fun s hs => ⟨(h s hs).1, fun a ha => hP a ((h s hs).2 a ha)⟩

/-- What was read has the property. -/
theorem keeps_get_bind {next : σ → Step σ β} (hnext : ∀ s, I s → Keeps I (next s) Q) :
    Keeps I (get >>= next) Q :=
  fun s hs => hnext s hs s hs

end Step

end DataParallel

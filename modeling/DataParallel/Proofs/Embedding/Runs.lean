import DataParallel.Proofs.Embedding.Weight

/-!
# Runs of an embedding

The weight of an embedding is set up, saved and loaded in any order, with whatever a store and its
host do in between.  What is loaded is the only thing that can give the weight another shape: as
long as every record that is taken has the shape of the weight, the weight has it too, and so has
everything that a store keeps of it.
-/

namespace DataParallel

open Step

variable {σ : Type}

/-! ## Moves of the store -/

namespace Store

variable [ParameterServer σ] [Contained σ]

/-- Whatever a store does, it keeps arrays that fit, if it is asked for the parameter under its
name only. -/
theorem Fitted.after {shape : Shape} {p : Parameter} {x : Store σ × Host} (hx : Fitted shape p x)
    (hc : Consistent x) {move : Move σ} (hmove : move.Possible x)
    (hsame : ∀ q device, move = .getValue q device → q.id = p.id → q = p) :
    Fitted shape p (move.after x) := by
  have hevolves : x.2.Evolves (move.after x).2 := Move.evolves hc hmove
  constructor
  · exact fun a ha => (hx.canonical a ha).evolves hc.sound hevolves
  · intro e he hm b hb
    rcases Move.find?_after hc hmove he with ⟨hold, -, -⟩ | ⟨q, device, rfl, hid, -⟩
    · exact (hx.replicas e hold hm b hb).evolves hc.sound hevolves
    · have hasked := hc.asked hmove device
      exact (hx.asked hc hasked (hsame q device rfl)).1.replicas e he hm b hb

end Store

namespace Embedding

/-! ## Events -/

/-- What happens to an embedding and to a store that may serve its weight. -/
inductive Event (σ : Type) where
  /-- The weight is set up. -/
  | setUp (m : ManagerId) (strategy scale : Value)
  /-- The weight is set up from a configuration. -/
  | setUpFrom (m : ManagerId) (c : Config)
  /-- The embedding is saved, which only reads it. -/
  | save
  /-- The embedding is loaded from a stream of any bytes. -/
  | load (m : ManagerId) (bs : Stream)
  /-- Something happens to the store, or elsewhere on its host. -/
  | store (move : Store.Move σ)

/-- The embedding and the store after a step on the embedding, however it ended. -/
def afterStep (step : Step (Embedding × Host) Unit) (y : Embedding × Store σ × Host) :
    Embedding × Store σ × Host :=
  let r := (step.runFrom (y.1, y.2.2)).2
  (r.1, y.2.1, r.2)

namespace Event

/-- The embedding and the store after an event, however it ended. -/
def after [ParameterServer σ] (y : Embedding × Store σ × Host) :
    Event σ → Embedding × Store σ × Host
  | setUp m strategy scale => afterStep (Embedding.setUp m strategy scale) y
  | setUpFrom m c => afterStep (Embedding.setUpFrom m c) y
  | save => y
  | load m bs =>
    let r := ((Embedding.load m).runFrom (bs, y.1, y.2.2)).2
    (r.2.1, y.2.1, r.2.2)
  | store move => (y.1, move.after y.2)

/-- Scales are single numbers, what is taken from a stream has the shape of the weight, and the
store is asked for the weight under its name only. -/
def Possible (y : Embedding × Store σ × Host) : Event σ → Prop
  | setUp _ _ scale => scale.isSequence = false
  | setUpFrom _ c => c.initScale.isSequence = false
  | save => True
  | load _ bs => ∀ c ∈ y.1.incoming bs, y.1.parameterShape (.text "embedding") = .ok c.shape.values
  | store move => move.Possible y.2 ∧
    ∀ p device, move = .getValue p device → p.id = y.1.weight.id → p = y.1.weight

end Event

/-- The states that a sequence of events leads to. -/
inductive Run [ParameterServer σ] (y : Embedding × Store σ × Host) :
    List (Event σ) → Embedding × Store σ × Host → Prop where
  | nil : Run y [] y
  | snoc {events : List (Event σ)} {z : Embedding × Store σ × Host} (event : Event σ) :
    Run y events z → event.Possible z → Run y (events ++ [event]) (event.after z)

/-! ## What every event keeps -/

/-- The weight fits the embedding, and so does all that the store keeps of it. -/
structure Fits (n : Nat) (y : Embedding × Store σ × Host) : Prop where
  sized : y.1.Sized n
  scale : y.1.weight.scale.isSequence = false
  consistent : Store.Consistent y.2
  fitted : Store.Fitted [y.1.rowCount, n] y.1.weight y.2

section Fits

variable {n : Nat} {e : Embedding} {s : Store σ} {h k : Host}

/-- Writing the array of the weight keeps all of it, if the array fits. -/
theorem Fits.wrote (hy : Fits n (e, s, h)) {p q : Parameter}
    (hwrote : Parameter.Wrote [e.rowCount, n] (p, h) (q, k)) (hid : p.id = e.weight.id)
    (hscale : p.scale.isSequence = false) :
    Fits n ({ e with weight := q }, s, k) := by
  have hsame : q = { p with array := q.array } := hwrote.same
  constructor
  · exact ⟨hy.sized.size, hy.sized.row_lt, hy.sized.default_lt⟩
  · show q.scale.isSequence = false
    rw [hsame]
    exact hscale
  · have hkeeps : Store.KeepsTable (s, h) (s, k) := ⟨⟨s.server, rfl, rfl⟩, hwrote.evolves⟩
    exact hkeeps.consistent hy.consistent
  · refine ⟨hwrote.fitting, fun entry hentry hm b hb => ?_⟩
    have hfind : s.find? e.weight.id = some entry := by
      rw [← hid, ← hentry]
      show s.find? p.id = s.find? q.id
      rw [hsame]
    exact (hy.fitted.replicas entry hfind hm b hb).evolves hy.consistent.sound hwrote.evolves

theorem Fits.setUp (hy : Fits n (e, s, h)) (m : ManagerId) (strategy : Value) {scale : Value}
    (hscale : scale.isSequence = false) :
    Fits n (afterStep (Embedding.setUp m strategy scale) (e, s, h)) := by
  obtain ⟨chosenStrategy, chosenScale, hchosen, hrun⟩ :=
    exists_runFrom_setUp m strategy h hscale hy.scale
  have hshape : [.int e.rowCount, e.size] = Shape.values [e.rowCount, n] := by
    have hsize : e.size = .int n := hy.sized.size
    rw [hsize]
    rfl
  rw [afterStep, hrun, hshape]
  exact hy.wrote (Parameter.wrote_setUp hy.consistent.sound hy.fitted.canonical hchosen) rfl hchosen

theorem Fits.load (hy : Fits n (e, s, h)) (m : ManagerId) {bs : Stream}
    (hbs : ∀ c ∈ e.incoming bs, e.parameterShape (.text "embedding") = .ok c.shape.values) :
    Fits n (let r := ((Embedding.load m).runFrom (bs, e, h)).2; (r.2.1, s, r.2.2)) := by
  dsimp only
  rw [load_incoming]
  rcases hincoming : e.incoming bs with _ | c
  · exact hy
  · have hshape := hy.sized.parameterShape_eq_ok.mp (hbs c hincoming)
    have hc := ofShape_incoming hincoming
    rw [hshape] at hc
    exact hy.wrote (Parameter.wrote_accept hy.consistent.sound hc hy.fitted.canonical) rfl hy.scale

/-- An embedding that was just built fits, also in a store that has served others. -/
theorem fits_build {c : EmbeddingConfig} {id : String} {x : Store σ × Host}
    (hbuild : c.build id = .ok e) (hsize : c.size = .int n) (hx : Store.Consistent x)
    (hid : x.1.find? id = none) : Fits n (e, x) := by
  have hweight := EmbeddingConfig.weight_build hbuild
  refine ⟨EmbeddingConfig.sized_build hbuild hsize, ?_, hx, ?_, ?_⟩
  · rw [hweight]
    rfl
  · intro a ha
    rw [hweight] at ha
    cases ha
  · intro entry hentry
    rw [hweight] at hentry
    cases hid.symm.trans hentry

variable [ParameterServer σ] [Contained σ]

theorem Fits.after {y : Embedding × Store σ × Host} (hy : Fits n y) {event : Event σ}
    (hevent : event.Possible y) : Fits n (event.after y) := by
  obtain ⟨e, s, h⟩ := y
  cases event with
  | setUp m strategy scale => exact hy.setUp m strategy hevent
  | setUpFrom m c => exact hy.setUp m c.initStrategy hevent
  | save => exact hy
  | load m bs => exact hy.load m hevent
  | store move =>
    exact ⟨hy.sized, hy.scale, hy.consistent.after hevent.1,
      hy.fitted.after hy.consistent hevent.1 hevent.2⟩

theorem Run.fits {y z : Embedding × Store σ × Host} {events : List (Event σ)}
    (hrun : Run y events z) (hy : Fits n y) : Fits n z := by
  induction hrun with
  | nil => exact hy
  | snoc event _ hevent ih => exact ih.after hevent

/-! ## Weights that fit -/

end Fits

/-! ## Trials -/

/-- The embedding of a list of items in vectors of two elements. -/
def trialOf (items : List Value) : Embedding :=
  ((EmbeddingConfig.build ⟨.list items, .int 2, .bool true, .text "float32"⟩ "trial").toOption).getD
    default

theorem build_trialOf :
    EmbeddingConfig.build ⟨.list [.text "a", .text "b"], .int 2, .bool true, .text "float32"⟩
      "trial" = .ok (trialOf [.text "a", .text "b"]) :=
  rfl

/-- The embedding next to a new store. -/
def trialStart (items : List Value) : Embedding × Store RecordingServer × Host :=
  (trialOf items, Store.trialStart)

/-- The embedding after its weight was set up. -/
def trialSetUp (items : List Value) (strategy : String) :
    Embedding × Store RecordingServer × Host :=
  Event.after (trialStart items) (.setUp ⟨0⟩ (.text strategy) .null)

end Embedding

end DataParallel

import DataParallel.Proofs.Pool.Apart
import DataParallel.Proofs.Store.LocalRound
import DataParallel.Proofs.Store.LocalTouch

/-!
# Training over a local server

Training asks for parameters on any devices, writes into the gradients of
replicas, makes rounds, drops entries and goes over to other devices.  With
it goes a list of the gradients that each round summed up, and `Synced` says
what holds at every moment: whatever holds a weight, be it the master, the
canonical array or a replica, holds the weight that one copy would have been
trained to.
-/

namespace DataParallel

open Step

namespace Store

/-- A weight that is trained: the parameter, its canonical array, and what the
array holds at the beginning. -/
structure Weight where
  id : String
  array : ArrayId
  precision : Precision
  initial : Tensor

/-- The state in which training begins: a store without entries over a server
that is new, and weights of float type whose arrays and gradients share no
buffers. -/
structure Ready (weights : List Weight) (o : Optimizer) (x : Store LocalServer × Host) :
    Prop where
  reached : Host.empty.Evolves x.2
  server : x.1.server = some (.new o)
  entries : x.1.entries = []
  ids : ∀ u ∈ weights, ∀ v ∈ weights, u.id = v.id → u = v
  contents : ∀ u ∈ weights, x.2.pool.contents? u.array = some u.initial
  dtype : ∀ u ∈ weights, u.initial.dtype = .native (.float u.precision)
  apart : ∀ u ∈ weights, ∀ v ∈ weights, u ≠ v → x.2.pool.Apart u.array v.array
  suits : ∀ u ∈ weights, o.Suits u.id u.precision

/-- The gradients of all rounds after one more, in which the trainable
parameters take part that are in the table. -/
def noted {σ : Type} (x : Store σ × Host) (rounds : String → List (List Tensor)) (id : String) :
    List (List Tensor) :=
  if id ∈ x.1.trainable then rounds id ++ [gradientContents x id] else rounds id

/-- The states that training leads to, with the gradients of each round. -/
inductive Training (weights : List Weight) (start : Store LocalServer × Host) :
    (String → List (List Tensor)) → Store LocalServer × Host → Prop where
  | start : Training weights start (fun _ => []) start
  /-- A parameter is asked for on a device. -/
  | getValue {rounds : String → List (List Tensor)} {x : Store LocalServer × Host} {u : Weight}
      {p : Parameter} (device : Device) : Training weights start rounds x → u ∈ weights →
    p.id = u.id → p.array = some u.array →
    Training weights start rounds ((Store.getValue p device).runFrom x).2
  /-- The gradient of a replica is overwritten. -/
  | write {rounds : String → List (List Tensor)} {x : Store LocalServer × Host} {id : String}
      {b g : ArrayId} (t : Tensor) : Training weights start rounds x → b ∈ x.1.replicas id →
    x.2.pool.gradient? b = some g →
    Training weights start rounds
      (x.1, { x.2 with pool := ((Pool.set g t).runFrom x.2.pool).2 })
  /-- A round succeeds. -/
  | updateAll {rounds : String → List (List Tensor)} {x y : Store LocalServer × Host} :
    Training weights start rounds x → Store.updateAll.runFrom x = (.ok (), y) →
    Training weights start (noted x rounds) y
  /-- One entry is dropped, or all of them. -/
  | reset {rounds : String → List (List Tensor)} {x : Store LocalServer × Host}
      (id : Option String) : Training weights start rounds x →
    Training weights start rounds (x.1.reset id, x.2)
  /-- The store goes over to other devices with its server. -/
  | setServer {rounds : String → List (List Tensor)} {x : Store LocalServer × Host}
      (devices : List Device) : Training weights start rounds x →
    Training weights start rounds ((Store.setServer x.1.server devices).runFrom x).2

/-! ## What holds at every moment -/

/-- Whatever holds the weight of a parameter holds the tensor `w`. -/
structure Holds (u : Weight) (v : LocalServer) (x : Store LocalServer × Host) (w : Tensor) :
    Prop where
  dtype : w.dtype = .native (.float u.precision)
  master : ∀ m, v.get? u.id = some m → m = w
  canonical : x.2.pool.contents? u.array = some w
  replicas : ∀ b ∈ x.1.replicas u.id, x.2.pool.contents? b = some w
  placed : ∀ e, x.1.find? u.id = some e → e.materialized = true →
    v.get? u.id = some w ∧ u.array ∈ e.replicas

/-- The weight is the one that the rounds train one copy to, with an optimizer
that is like the one of the server as far as this parameter goes. -/
structure Tracked (u : Weight) (o : Optimizer) (rounds : String → List (List Tensor))
    (v : LocalServer) (x : Store LocalServer × Host) (w : Tensor) : Prop where
  holds : Holds u v x w
  trained : ∃ o', (Optimizer.train u.id (rounds u.id) u.initial).runFrom o = (.ok w, o') ∧
    Optimizer.Agree u.id o' v.optimizer ∧ o'.Suits u.id u.precision

/-- The table of a store that is being trained: canonical arrays are as they
were at the beginning, and the other replicas are young and belong to one
parameter. -/
structure Owned (weights : List Weight) (start x : Store LocalServer × Host) : Prop where
  grown : start.2.Evolves x.2
  kept : ∀ a, start.2.pool.Has a → x.2.pool.array a = start.2.pool.array a
  known : ∀ id e, x.1.find? id = some e → ∃ u ∈ weights, u.id = id
  young : ∀ u ∈ weights, ∀ b ∈ x.1.replicas u.id,
    b = u.array ∨ x.2.pool.Young start.2.pool.arrays.size b
  distinct : ∀ u ∈ weights, ∀ v ∈ weights, u ≠ v → ∀ b ∈ x.1.replicas u.id,
    b ∉ x.1.replicas v.id

/-- What holds at every moment of training. -/
structure Synced (weights : List Weight) (o : Optimizer) (start : Store LocalServer × Host)
    (rounds : String → List (List Tensor)) (x : Store LocalServer × Host) (v : LocalServer) :
    Prop where
  consistent : Consistent x
  server : x.1.server = some v
  pending : ∀ id, v.pending.lookup id = none
  owned : Owned weights start x
  tracked : ∀ u ∈ weights, ∃ w, Tracked u o rounds v x w

/-! ## Weights share no buffers -/

section Owned

variable {weights : List Weight} {o : Optimizer} {start x : Store LocalServer × Host}
  {u v : Weight} {b c : ArrayId}

/-- The array is the canonical one of the weight, or a replica of it. -/
def Carries (x : Store LocalServer × Host) (u : Weight) (b : ArrayId) : Prop :=
  b = u.array ∨ b ∈ x.1.replicas u.id

theorem Ready.sound (hready : Ready weights o start) : start.2.pool.Sound :=
  Host.sound_of_reached hready.reached

theorem Ready.has (hready : Ready weights o start) (hu : u ∈ weights) :
    start.2.pool.Has u.array :=
  Pool.has_of_contents? (hready.contents u hu)

theorem Owned.young_of_carries (h : Owned weights start x) (hu : u ∈ weights)
    (hb : Carries x u b) : b = u.array ∨ x.2.pool.Young start.2.pool.arrays.size b := by
  rcases hb with hb | hb
  · exact Or.inl hb
  · exact h.young u hu b hb

theorem Owned.apart_canonical (h : Owned weights start x) (hready : Ready weights o start)
    (hu : u ∈ weights) (hv : v ∈ weights) (hne : u ≠ v) : x.2.pool.Apart u.array v.array := by
  have hsame : ∀ {w : Weight}, w ∈ weights →
      x.2.pool.reach w.array = start.2.pool.reach w.array := by
    intro w hw
    refine Pool.reach_congr (h.kept _ (hready.has hw)) fun g hg => h.kept g ?_
    obtain ⟨k, hk, hgradient⟩ := Pool.gradient?_eq_some.mp hg
    exact (hready.sound.gradient_lt hk hgradient).2
  intro d
  rw [hsame hu, hsame hv]
  exact hready.apart u hu v hv hne d

/-- Different arrays that carry weights are apart, of one weight or of two. -/
theorem Owned.apart (h : Owned weights start x) (hready : Ready weights o start)
    (hu : u ∈ weights) (hv : v ∈ weights) (hb : Carries x u b) (hc : Carries x v c)
    (hne : b ≠ c) : x.2.pool.Apart b c := by
  have hp : x.2.pool.Sound := h.grown.sound hready.sound
  have hthere : ∀ {w : Weight}, w ∈ weights → x.2.pool.Has w.array :=
    fun hw => h.grown.has (hready.has hw)
  rcases h.young_of_carries hu hb with hbu | hby
  · rcases h.young_of_carries hv hc with hcv | hcy
    · have huv : u ≠ v := by
        rintro rfl
        exact hne (hbu.trans hcv.symm)
      rw [hbu, hcv]
      exact h.apart_canonical hready hu hv huv
    · exact Pool.Young.apart hp (hthere hu) (hready.has hu) (Or.inl hbu) (Or.inr hcy) hne
  · rcases h.young_of_carries hv hc with hcv | hcy
    · exact Pool.Young.apart hp (hthere hv) (hready.has hv) (Or.inr hby) (Or.inl hcv) hne
    · exact Pool.Young.apart hp (hthere hu) (hready.has hu) (Or.inr hby) (Or.inr hcy) hne

/-- An array carries one weight only. -/
theorem Owned.ne (h : Owned weights start x) (hready : Ready weights o start)
    (hu : u ∈ weights) (hv : v ∈ weights) (hne : u ≠ v) (hb : Carries x u b)
    (hc : Carries x v c) : b ≠ c := by
  have hold : ∀ {w : Weight} {d : ArrayId}, w ∈ weights →
      x.2.pool.Young start.2.pool.arrays.size d → d ≠ w.array := by
    rintro w d hw hd rfl
    exact Nat.not_lt_of_le hd.le (hready.has hw)
  have hcanonical : u.array ≠ v.array := by
    intro heq
    have hapart := hready.apart u hu v hv hne
    obtain ⟨b, hbuffer⟩ := Pool.exists_buffer?_of_contents? (hready.contents u hu)
    rw [← heq] at hapart
    exact hapart.buffer?_ne (Or.inl rfl) (Or.inl rfl) hbuffer hbuffer
  rcases hb with rfl | hb
  · rcases hc with rfl | hc
    · exact hcanonical
    · rcases h.young v hv c hc with rfl | hcy
      · exact hcanonical
      · exact (hold hu hcy).symm
  · rcases hc with rfl | hc
    · rcases h.young u hu b hb with rfl | hby
      · exact hcanonical
      · exact hold hv hby
    · rintro rfl
      exact h.distinct u hu v hv hne b hb hc

/-- No other replica has the buffer of an array that carries a weight. -/
theorem Owned.clear (h : Owned weights start x) (hready : Ready weights o start)
    (hu : u ∈ weights) (hv : v ∈ weights) (hb : Carries x u b) :
    x.2.pool.Clear b (x.1.replicas v.id) := by
  intro c hc hne d hd
  exact (h.apart hready hu hv hb (Or.inr hc) (Ne.symm hne)).buffer?_ne (Or.inl rfl)
    (Or.inl rfl) hd

/-- A gradient of a carrying array has a buffer that no carrying array has. -/
theorem Owned.gradient_ne (h : Owned weights start x) (hready : Ready weights o start)
    (hu : u ∈ weights) (hv : v ∈ weights) (hb : Carries x u b) (hc : Carries x v c) {g : ArrayId}
    (hg : x.2.pool.gradient? b = some g) {d : BufferId} (hd : x.2.pool.buffer? c = some d) :
    x.2.pool.buffer? g ≠ some d := by
  by_cases hbc : b = c
  · subst hbc
    exact (h.grown.sound hready.sound).buffer?_gradient_ne hg hd
  · intro hgd
    exact (h.apart hready hu hv hb hc hbc).buffer?_ne (Or.inr hg) (Or.inl rfl) hgd hd

end Owned

end Store

end DataParallel

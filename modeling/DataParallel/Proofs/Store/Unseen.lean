import DataParallel.Proofs.Step.Mirrors
import DataParallel.Store.Placement
import DataParallel.Store.Synchronization

/-!
# What a call of a store does not see

A call of a store looks at the manager, the devices, the server and the entries
of the parameters that it is about.  A map of stores that leaves all of these
alone is not seen by the call, which does on the image what it does on the
store.  Other modules apply this to servers that are watched and to entries of
other parameters.
-/

namespace DataParallel

open Step

namespace Store

variable {σ τ : Type} [ParameterServer σ] [ParameterServer τ]

/-- The map of stores that leaves the host alone. -/
abbrev besideHost (f : Store σ → Store τ) : Store σ × Host → Store τ × Host := Prod.map f id

/-- Nothing that is done for the parameter sees the map. -/
structure Unseen (f : Store σ → Store τ) (name : String) : Prop where
  manager : ∀ s, (f s).manager = s.manager
  copy : ∀ s, (f s).copy = s.copy
  registry : ∀ s, (f s).registry = s.registry
  server : ∀ s, (f s).server.isNone = s.server.isNone
  entry : ∀ s, (f s).find? name = s.find? name
  opened : ∀ s e, f { s with entries := Keyed.put name e s.entries } =
    { f s with entries := Keyed.put name e (f s).entries }
  updated : ∀ s g, f (s.updateEntry name g) = (f s).updateEntry name g
  init : ∀ arrays, Mirrors (besideHost f) (onServer (ParameterServer.init name arrays))
    (onServer (ParameterServer.init name arrays))
  push : ∀ gradients priority,
    Mirrors (besideHost f) (onServer (ParameterServer.push name gradients priority))
      (onServer (ParameterServer.push name gradients priority))
  pull : ∀ weights priority,
    Mirrors (besideHost f) (onServer (ParameterServer.pull name weights priority))
      (onServer (ParameterServer.pull name weights priority))

variable {f : Store σ → Store τ}

theorem Unseen.replicas {name : String} (hf : Unseen f name) (s : Store σ) :
    (f s).replicas name = s.replicas name := by
  rw [Store.replicas, Store.replicas, hf.entry]

/-! ## Asking for a parameter -/

section Asking

variable {p : Parameter} (hf : Unseen f p.id)

include hf

theorem Unseen.slotOf (device : Device) :
    Mirrors (besideHost f) (slotOf device : Step (Store σ × Host) Nat) (slotOf device) := by
  refine mirrors_get_bind fun x => ?_
  have hregistry : (besideHost f x).1.registry = x.1.registry := hf.registry x.1
  rw [hregistry]
  exact mirrors_ofExcept _

theorem Unseen.ensureEntry :
    Mirrors (besideHost f) (ensureEntry p : Step (Store σ × Host) Unit) (ensureEntry p) := by
  refine mirrors_get_bind fun x => ?_
  have hcontains : (besideHost f x).1.contains p.id = x.1.contains p.id := by
    rw [contains, contains]
    exact congrArg Option.isSome (hf.entry x.1)
  rw [hcontains]
  refine mirrors_ite (mirrors_pure _) (mirrors_modify fun y => ?_)
  exact Prod.ext (hf.opened y.1 _).symm rfl

theorem Unseen.replicate (a : ArrayId) (device : Device) :
    Mirrors (besideHost f) (replicate a device : Step (Store σ × Host) ArrayId)
      (replicate a device) := by
  refine mirrors_get_bind fun x => ?_
  have hmanager : (besideHost f x).1.manager = x.1.manager := hf.manager x.1
  rw [hmanager]
  exact mirrors_second _

theorem Unseen.updateEntry (g : Entry → Entry) :
    Mirrors (besideHost f)
      (modify fun (s, h) => (s.updateEntry p.id g, h) : Step (Store σ × Host) PUnit)
      (modify fun (s, h) => (s.updateEntry p.id g, h)) :=
  mirrors_modify fun y => Prod.ext (hf.updated y.1 g).symm rfl

theorem Unseen.placeAlone (a : ArrayId) (device : Device) :
    Mirrors (besideHost f) (placeAlone p a device : Step (Store σ × Host) Unit)
      (placeAlone p a device) := by
  have hrest : ∀ placed, Mirrors (besideHost f)
      (do addReplica p.id placed
          note .debug ("Placed " ++ p.name.display ++ "[" ++ p.id ++ "] on " ++ device.text) :
        Step (Store σ × Host) Unit)
      (do addReplica p.id placed
          note .debug ("Placed " ++ p.name.display ++ "[" ++ p.id ++ "] on " ++ device.text)) :=
    fun placed => mirrors_bind (hf.updateEntry _) fun _ => mirrors_second _
  refine mirrors_get_bind fun x => ?_
  have hcopy : (besideHost f x).1.copy = x.1.copy := hf.copy x.1
  dsimp only
  rw [hcopy]
  refine mirrors_ite ?_ ?_
  · exact mirrors_bind (hf.replicate a device) hrest
  · exact mirrors_bind (mirrors_pure a) hrest

theorem Unseen.spread (a : ArrayId) (slot i : Nat) (devices : List Device) :
    Mirrors (besideHost f) (spread a slot i devices : Step (Store σ × Host) _)
      (spread a slot i devices) := by
  induction devices generalizing i with
  | nil => exact mirrors_pure _
  | cons device rest ih =>
    have hrest : ∀ replica, Mirrors (besideHost f)
        (do return replica :: (← Store.spread a slot (i + 1) rest) : Step (Store σ × Host) _)
        (do return replica :: (← Store.spread a slot (i + 1) rest)) :=
      fun replica => mirrors_bind (ih (i + 1)) fun _ => mirrors_pure _
    apply mirrors_ite
    · exact mirrors_bind (mirrors_pure a) hrest
    · exact mirrors_bind (hf.replicate a device) hrest

theorem Unseen.register (all todo : List ArrayId) :
    Mirrors (besideHost f) (register p.id all todo : Step (Store σ × Host) Unit)
      (register p.id all todo) := by
  induction todo with
  | nil => exact mirrors_pure _
  | cons a rest ih =>
    exact mirrors_bind (hf.init all) fun _ => mirrors_bind (hf.updateEntry _) fun _ => ih

theorem Unseen.materialize (device : Device) (slot : Nat) :
    Mirrors (besideHost f) (materialize p device slot : Step (Store σ × Host) Unit)
      (materialize p device slot) := by
  refine mirrors_bind (mirrors_ofExcept _) fun a => mirrors_get_bind fun x => ?_
  have hserver : (besideHost f x).1.server.isNone = x.1.server.isNone := hf.server x.1
  rw [hserver]
  refine mirrors_ite (hf.placeAlone a device) (mirrors_get_bind fun y => ?_)
  have hregistry : (besideHost f y).1.registry = y.1.registry := hf.registry y.1
  rw [hregistry]
  exact mirrors_bind (hf.spread a slot 0 _) fun arrays =>
    mirrors_bind (hf.register arrays arrays) fun _ => mirrors_second _

/-- The replica of a slot, which is the last thing that is taken. -/
theorem Unseen.reply (slot : Nat) :
    Mirrors (besideHost f)
      (do match ((← get).1.replicas p.id)[slot]? with
          | some a => return a
          | none => throw .outOfRange : Step (Store σ × Host) ArrayId)
      (do match ((← get).1.replicas p.id)[slot]? with
          | some a => return a
          | none => throw .outOfRange) := by
  refine mirrors_get_bind fun x => ?_
  have hreplicas : (besideHost f x).1.replicas p.id = x.1.replicas p.id := hf.replicas x.1
  rw [hreplicas]
  rcases (x.1.replicas p.id)[slot]? with _ | a
  · exact mirrors_throw _
  · exact mirrors_pure a

theorem Unseen.take (device : Device) (slot : Nat) :
    Mirrors (besideHost f) (take p device slot : Step (Store σ × Host) ArrayId)
      (take p device slot) := by
  have hreply := hf.reply slot
  refine mirrors_get_bind fun x => ?_
  have hentry : (besideHost f x).1.find? p.id = x.1.find? p.id := hf.entry x.1
  dsimp only
  rw [hentry]
  refine mirrors_ite (mirrors_throw_bind _) (mirrors_ite ?_ hreply)
  refine mirrors_bind (mirrors_attempt (hf.materialize device slot)) fun result => ?_
  rcases result with fault | ⟨⟩
  · exact mirrors_bind (hf.updateEntry _) fun _ => mirrors_throw_bind fault
  · exact mirrors_bind (hf.updateEntry _) fun _ => hreply

/-- Asking for the parameter does on the image what it does on the store. -/
theorem Unseen.getValue (device : Device) :
    Mirrors (besideHost f) (getValue p device : Step (Store σ × Host) ArrayId)
      (getValue p device) :=
  mirrors_bind (hf.slotOf device) fun slot =>
    mirrors_bind hf.ensureEntry fun _ => hf.take device slot

end Asking

/-! ## Rounds -/

omit [ParameterServer σ] [ParameterServer τ] in
theorem mirrors_gradients (arrays : List ArrayId) :
    Mirrors (besideHost f) (gradients arrays : Step (Store σ × Host) _) (gradients arrays) := by
  induction arrays with
  | nil => exact mirrors_pure _
  | cons a rest ih =>
    exact mirrors_bind (mirrors_second _) fun _ => mirrors_bind ih fun _ => mirrors_pure _

section Rounds

variable {ids : List String} (hf : ∀ name ∈ ids, Unseen f name)

include hf

theorem mirrors_checkPlaced :
    Mirrors (besideHost f) (checkPlaced ids : Step (Store σ × Host) Unit) (checkPlaced ids) := by
  induction ids with
  | nil => exact mirrors_pure _
  | cons name rest ih =>
    obtain ⟨hname, hrest⟩ := List.forall_mem_cons.mp hf
    refine mirrors_get_bind fun x => ?_
    have hentry : (besideHost f x).1.find? name = x.1.find? name := hname.entry x.1
    rw [hentry]
    exact mirrors_ite (mirrors_throw_bind _) (ih hrest)

theorem mirrors_pushAll (rank : Nat) :
    Mirrors (besideHost f) (pushAll rank ids : Step (Store σ × Host) Unit)
      (pushAll rank ids) := by
  induction ids generalizing rank with
  | nil => exact mirrors_pure _
  | cons name rest ih =>
    obtain ⟨hname, hrest⟩ := List.forall_mem_cons.mp hf
    refine mirrors_get_bind fun x => ?_
    have hreplicas : (besideHost f x).1.replicas name = x.1.replicas name := hname.replicas x.1
    rw [hreplicas]
    exact mirrors_bind (mirrors_gradients _) fun gs =>
      mirrors_bind (hname.push gs _) fun _ => ih hrest (rank + 1)

theorem mirrors_pullAll (rank : Nat) :
    Mirrors (besideHost f) (pullAll rank ids : Step (Store σ × Host) Unit)
      (pullAll rank ids) := by
  induction ids generalizing rank with
  | nil => exact mirrors_pure _
  | cons name rest ih =>
    obtain ⟨hname, hrest⟩ := List.forall_mem_cons.mp hf
    refine mirrors_get_bind fun x => ?_
    have hreplicas : (besideHost f x).1.replicas name = x.1.replicas name := hname.replicas x.1
    rw [hreplicas]
    exact mirrors_bind (hname.pull _ _) fun _ => ih hrest (rank + 1)

end Rounds

/-- A round over trainable parameters that are those of the image as well. -/
theorem runFrom_updateAll_unseen {x : Store σ × Host} (hserver : (f x.1).server.isNone =
    x.1.server.isNone) (htrainable : (f x.1).trainable = x.1.trainable)
    (hf : ∀ name ∈ x.1.trainable, Unseen f name) :
    updateAll.runFrom (besideHost f x) =
      ((updateAll.runFrom x).1, besideHost f (updateAll.runFrom x).2) := by
  have hround : Mirrors (besideHost f)
      (do checkPlaced x.1.trainable
          pushAll 0 x.1.trainable
          pullAll 0 x.1.trainable : Step (Store σ × Host) Unit)
      (do checkPlaced x.1.trainable
          pushAll 0 x.1.trainable
          pullAll 0 x.1.trainable) :=
    mirrors_bind (mirrors_checkPlaced hf) fun _ =>
      mirrors_bind (mirrors_pushAll hf 0) fun _ => mirrors_pullAll hf 0
  rw [updateAll, updateAll, runFrom_bind_of_ok (runFrom_get _), runFrom_bind_of_ok (runFrom_get x)]
  dsimp only [besideHost, Prod.map]
  rw [hserver, htrainable]
  exact mirrors_ite (mirrors_throw_bind _) hround x

end Store

end DataParallel

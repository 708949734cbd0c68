import DataParallel.Proofs.Store.Consistent
import DataParallel.Store.Configured

/-!
# Runs of a store

A run is a sequence of calls of a store in any order, with whatever else
happens on its host in between: arrays are written, loaded and closed, and
other stores work with the same server.  Calls that fail are part of it like
all others.

The point of this module is `Run.origin`: an entry comes from one call, before
which the parameter had no entry, and nothing has touched it since.
-/

namespace DataParallel

open Step

namespace Store

variable {σ : Type}

/-- What happens to a store. -/
inductive Move (σ : Type) where
  /-- A parameter is asked for on a device. -/
  | getValue (p : Parameter) (device : Device)
  /-- One round over all trainable parameters. -/
  | updateAll
  /-- The store goes over to a server and devices. -/
  | setServer (server : Option σ) (devices : List Device)
  /-- One entry is dropped, or all of them. -/
  | reset (id : Option String)
  /-- Something else happens on the host, and perhaps to the server. -/
  | elsewhere (change : σ → σ) (host : Host)

namespace Move

/-- The state after a move, however the call ended. -/
def after [ParameterServer σ] (x : Store σ × Host) : Move σ → Store σ × Host
  | getValue p device => ((Store.getValue p device).runFrom x).2
  | updateAll => (Store.updateAll.runFrom x).2
  | setServer server devices => ((Store.setServer server devices).runFrom x).2
  | reset id => (x.1.reset id, x.2)
  | elsewhere change host => ({ x.1 with server := x.1.server.map change }, host)

/-- A parameter has an array of this host, and what happens elsewhere lets the
pool evolve. -/
def Possible (x : Store σ × Host) : Move σ → Prop
  | getValue p _ => ∀ a ∈ p.array, x.2.pool.Has a
  | elsewhere _ host => x.2.Evolves host
  | _ => True

end Move

/-- A store that was just made on a host, from a configuration or without one. -/
def Begins (x : Store σ × Host) : Prop :=
  ∃ h : Host, Host.empty.Evolves h ∧
    ((∃ manager copy, (start manager copy).runFrom h = (.ok x.1, x.2)) ∨
      ∃ manager config server, (startWith manager config server).runFrom h = (.ok x.1, x.2))

/-- The states that a sequence of moves leads to. -/
inductive Run [ParameterServer σ] (x : Store σ × Host) :
    List (Move σ) → Store σ × Host → Prop where
  | nil : Run x [] x
  | snoc {moves : List (Move σ)} {y : Store σ × Host} (move : Move σ) :
    Run x moves y → move.Possible y → Run x (moves ++ [move]) (move.after y)

/-! ## Stores that were just made -/

theorem start_eq_ok {h k : Host} {s : Store σ} {manager : ManagerId} {copy : Value}
    (hrun : (start manager copy).runFrom h = (.ok s, k)) :
    s = new manager (h.pool.manager manager).device copy ∧ k.pool = h.pool := by
  have hget : (get : Step Host Host).runFrom h = (.ok h, h) := rfl
  rw [start, runFrom_bind_of_ok hget] at hrun
  obtain ⟨_, k', hjournal, hrest⟩ := runFrom_bind_eq_ok hrun
  have hpool : k'.pool = h.pool := by
    obtain ⟨-, hhost⟩ := Prod.mk.inj hjournal
    rw [← hhost]
  obtain ⟨hstore, hhost⟩ := Prod.mk.inj hrest
  rw [← Except.ok.inj hstore, ← hhost]
  exact ⟨rfl, hpool⟩

theorem consistent_new {h : Host} (hp : h.pool.Sound) (manager : ManagerId) (device : Device)
    (copy : Value) : Consistent ((new manager device copy : Store σ), h) :=
  .of_no_entries hp (fun _ => rfl) rfl

/-- A store from a configuration is a new one, or a new one that has gone over
to a server. -/
theorem startWith_eq_ok {h k : Host} {s : Store σ} {manager : ManagerId} {config : Config}
    {server : Option σ} (hrun : (startWith manager config server).runFrom h = (.ok s, k)) :
    ∃ t h', (start manager config.copy).runFrom h = (.ok t, h') ∧
      ((s, k) = (t, h') ∨ ∃ devices, (setServer server devices).runFrom (t, h') =
        (.ok (), s, k)) := by
  rw [startWith] at hrun
  obtain ⟨_, h₁, hvalid, hrun⟩ := runFrom_bind_eq_ok hrun
  obtain rfl : h = h₁ := congrArg Prod.snd hvalid
  obtain ⟨t, h₂, hstart, hrun⟩ := runFrom_bind_eq_ok hrun
  refine ⟨t, h₂, hstart, ?_⟩
  split at hrun
  · left
    obtain ⟨hstore, hhost⟩ := Prod.mk.inj hrun
    rw [← Except.ok.inj hstore, ← hhost]
  · right
    obtain ⟨named, h₃, hnamed, hrun⟩ := runFrom_bind_eq_ok hrun
    obtain rfl : h₂ = h₃ := congrArg Prod.snd hnamed
    obtain ⟨h₄, h₅, hget, hrun⟩ := runFrom_bind_eq_ok hrun
    obtain rfl : h₂ = h₅ := congrArg Prod.snd hget
    rw [runFrom_make] at hrun
    dsimp only at hrun
    generalize (if named.isEmpty then [(h₄.pool.manager manager).device] else named) =
      devices at hrun
    refine ⟨devices, ?_⟩
    rcases hset : (setServer server devices).runFrom (t, h₂) with ⟨fault | ⟨⟩, u, h₆⟩
    · rw [hset] at hrun
      cases hrun
    · rw [hset] at hrun
      obtain ⟨hstore, hhost⟩ := Prod.mk.inj hrun
      rw [← Except.ok.inj hstore, ← hhost]

theorem Begins.consistent {x : Store σ × Host} (hx : Begins x) :
    Consistent x ∧ x.1.entries = [] := by
  have hnew : ∀ {h k : Host} {s : Store σ} {manager copy}, Host.empty.Evolves h →
      (start manager copy).runFrom h = (.ok s, k) → Consistent (s, k) ∧ s.entries = [] := by
    intro h k s manager copy hh hrun
    obtain ⟨rfl, hpool⟩ := start_eq_ok hrun
    refine ⟨consistent_new ?_ _ _ _, rfl⟩
    rw [hpool]
    exact Host.sound_of_reached hh
  obtain ⟨h, hh, ⟨manager, copy, hrun⟩ | ⟨manager, config, server, hrun⟩⟩ := hx
  · exact hnew hh hrun
  · obtain ⟨t, k, hstart, hsame | ⟨devices, hset⟩⟩ := startWith_eq_ok hrun
    · obtain ⟨s, h'⟩ := x
      rw [hsame]
      exact hnew hh hstart
    · have ht := hnew hh hstart
      rcases setServer_cases (t, k) server devices with
        ⟨fault, hfail⟩ | ⟨v, r, k', -, -, hpool, hok⟩
      · rw [hfail] at hset
        cases hset
      · obtain ⟨s, h'⟩ := x
        rw [hok] at hset
        obtain ⟨-, hstore⟩ := Prod.mk.inj hset
        rw [← hstore]
        exact ⟨.of_no_entries (by rw [hpool]; exact ht.1.sound) (fun h => by cases h) rfl, rfl⟩

/-! ## Moves and runs -/

section Runs

variable [ParameterServer σ] [Contained σ]

theorem Consistent.after {x : Store σ × Host} (hx : Consistent x) {move : Move σ}
    (hmove : move.Possible x) : Consistent (move.after x) := by
  rcases move with ⟨p, device⟩ | _ | ⟨server, devices⟩ | id | ⟨change, host⟩
  · exact (hx.asked hmove device).consistent hx
  · exact (along_updateAll x).consistent hx
  · rcases setServer_cases x server devices with ⟨fault, hrun⟩ | ⟨v, r, k, -, -, hpool, hrun⟩
    · rw [Move.after, hrun]
      exact hx
    · rw [Move.after, hrun]
      exact Consistent.of_no_entries (by rw [hpool]; exact hx.sound) (fun h => by cases h) rfl
  · exact hx.reset id
  · have hkeeps : KeepsTable x ({ x.1 with server := x.1.server.map change }, host) :=
      ⟨⟨x.1.server.map change, rfl, by simp⟩, hmove⟩
    exact hkeeps.consistent hx

theorem Move.evolves {x : Store σ × Host} (hx : Consistent x) {move : Move σ}
    (hmove : move.Possible x) : x.2.Evolves (move.after x).2 := by
  rcases move with ⟨p, device⟩ | _ | ⟨server, devices⟩ | id | ⟨change, host⟩
  · exact (hx.asked hmove device).evolves
  · exact (along_updateAll x).2
  · rcases setServer_cases x server devices with ⟨fault, hrun⟩ | ⟨v, r, k, -, -, hpool, hrun⟩
    · rw [Move.after, hrun]
      exact Pool.Evolves.refl _
    · rw [Move.after, hrun, Host.Evolves, hpool]
      exact Pool.Evolves.refl _
  · exact Pool.Evolves.refl _
  · exact hmove

theorem Run.consistent {x y : Store σ × Host} {moves : List (Move σ)} (hrun : Run x moves y)
    (hx : Consistent x) : Consistent y := by
  induction hrun with
  | nil => exact hx
  | snoc move _ hmove ih => exact ih.after hmove

theorem Run.evolves {x y : Store σ × Host} {moves : List (Move σ)} (hrun : Run x moves y)
    (hx : Consistent x) : x.2.Evolves y.2 := by
  induction hrun with
  | nil => exact Pool.Evolves.refl _
  | snoc move hbefore hmove ih =>
    exact Pool.Evolves.trans ih (Move.evolves (hbefore.consistent hx) hmove)

/-- A store keeps having a server. -/
theorem Move.isSome_server {x : Store σ × Host} (hx : Consistent x) {move : Move σ}
    (hmove : move.Possible x) (hserver : x.1.server.isSome) :
    (move.after x).1.server.isSome := by
  rcases move with ⟨p, device⟩ | _ | ⟨server, devices⟩ | id | ⟨change, host⟩
  · exact ((hx.asked hmove device).registry.2).trans hserver
  · obtain ⟨⟨server, hsame, hisSome⟩, -⟩ := along_updateAll x
    rw [Move.after, hsame]
    exact hisSome.trans hserver
  · rcases setServer_cases x server devices with ⟨fault, hrun⟩ | ⟨v, r, k, -, -, -, hrun⟩
    · rw [Move.after, hrun]
      exact hserver
    · rw [Move.after, hrun]
      rfl
  · rcases id with _ | id <;> exact hserver
  · simpa [Move.after] using hserver

theorem Run.isSome_server {x y : Store σ × Host} {moves : List (Move σ)} (hrun : Run x moves y)
    (hx : Consistent x) (hserver : x.1.server.isSome) : y.1.server.isSome := by
  induction hrun with
  | nil => exact hserver
  | snoc move hbefore hmove ih => exact Move.isSome_server (hbefore.consistent hx) hmove ih

/-- An entry after a move is an entry from before, over the same devices, or
the one that asking for its parameter has just made. -/
theorem Move.find?_after {x : Store σ × Host} (hx : Consistent x) {move : Move σ}
    (hmove : move.Possible x) {id : String} {e : Entry}
    (hfind : (move.after x).1.find? id = some e) :
    (x.1.find? id = some e ∧ (move.after x).1.registry = x.1.registry ∧
      (move.after x).1.server.isSome = x.1.server.isSome) ∨
    ∃ p device, move = .getValue p device ∧ p.id = id ∧ x.1.find? id = none := by
  rcases move with ⟨p, device⟩ | _ | ⟨server, devices⟩ | name | ⟨change, host⟩
  · have hasked := hx.asked hmove device
    rcases hasked.find? hfind with hold | ⟨hid, hnone⟩
    · exact Or.inl ⟨hold, hasked.registry⟩
    · exact Or.inr ⟨p, device, rfl, hid.symm, hnone⟩
  · obtain ⟨⟨server, hsame, hserver⟩, -⟩ := along_updateAll x
    rw [Move.after, hsame] at hfind
    rw [Move.after, hsame]
    exact Or.inl ⟨hfind, rfl, hserver⟩
  · rcases setServer_cases x server devices with ⟨fault, hrun⟩ | ⟨v, r, k, -, -, -, hrun⟩
    · rw [Move.after, hrun] at hfind
      rw [Move.after, hrun]
      exact Or.inl ⟨hfind, rfl, rfl⟩
    · rw [Move.after, hrun] at hfind
      cases hfind
  · rw [Move.after, find?_reset] at hfind
    split at hfind
    · cases hfind
    · refine Or.inl ⟨hfind, ?_⟩
      rcases name with _ | name <;> exact ⟨rfl, rfl⟩
  · exact Or.inl ⟨hfind, rfl, by simp [Move.after]⟩

/-- Every entry comes from one call that asked for a parameter without an
entry, and has been the same since, over the same devices. -/
theorem Run.origin {x y : Store σ × Host} {moves : List (Move σ)} (hrun : Run x moves y)
    (hx : Consistent x) (hempty : x.1.entries = []) {id : String} {e : Entry}
    (hfind : y.1.find? id = some e) :
    ∃ before p device later z, moves = before ++ .getValue p device :: later ∧
      Run x before z ∧ Move.Possible z (.getValue p device) ∧
      Run ((getValue p device).runFrom z).2 later y ∧ p.id = id ∧ z.1.find? id = none ∧
      ((getValue p device).runFrom z).2.1.find? id = some e ∧
      y.1.registry = z.1.registry ∧ y.1.server.isSome = z.1.server.isSome := by
  induction hrun with
  | nil =>
    rw [Store.find?, hempty] at hfind
    cases hfind
  | @snoc moves y move hbefore hmove ih =>
    have hy := hbefore.consistent hx
    rcases Move.find?_after hy hmove hfind with ⟨hold, hregistry, hserver⟩ | hnew
    · obtain ⟨before, p, device, later, z, rfl, hz, hpossible, hlater, hid, hnone, hentry,
        hsame, hmode⟩ := ih hold
      refine ⟨before, p, device, later ++ [move], z, ?_, hz, hpossible,
        .snoc move hlater hmove, hid, hnone, hentry, hregistry.trans hsame,
        hserver.trans hmode⟩
      simp
    · obtain ⟨p, device, rfl, hid, hnone⟩ := hnew
      have hasked := hy.asked hmove device
      exact ⟨moves, p, device, [], y, rfl, hbefore, hmove, .nil, hid, hnone, hfind,
        hasked.registry.1, hasked.registry.2⟩

end Runs

/-! ## A host for trials -/

/-- A run of a trial is evaluated as far as its result. -/
theorem eq_ok_of_toOption {τ α : Type} {r : Except Fault α × τ} {a : α}
    (h : r.1.toOption = some a) : r = (.ok a, r.2) := by
  rcases r with ⟨fault | b, s⟩
  · cases h
  · rw [Option.some.inj h]

/-- A manager, and an array of two elements. -/
def trialHost : Host where
  pool := ((do
    let m ← Pool.newManager
    Pool.create m (.ok (Tensor.zeros .float32 [2])) : Step Pool ArrayId).runFrom Pool.empty).2
  draws := default
  journal := .empty
  conversion := default

/-- A parameter with the array of the trial host. -/
def trialParameter : Parameter :=
  { Parameter.new "weight" (.text "weight") with array := some ⟨0⟩ }

theorem evolves_trialHost : Host.empty.Evolves trialHost :=
  along_bind (Pool.along_newManager .unset) (fun m => Pool.along_create m _ .unset) Pool.empty

/-- The trial host after its array was given a gradient. -/
def trackedHost : Host :=
  { trialHost with pool := ((Pool.attachGradient ⟨0⟩).runFrom trialHost.pool).2 }

theorem evolves_trackedHost : trialHost.Evolves trackedHost :=
  Pool.along_attachGradient ⟨0⟩ trialHost.pool

/-- A new store on the trial host. -/
def trialStart : Store σ × Host :=
  (new ⟨0⟩ .cpu (.bool false),
    ((start ⟨0⟩ (.bool false) : Step Host (Store σ)).runFrom trialHost).2)

theorem begins_trialStart : Begins (trialStart : Store σ × Host) :=
  ⟨trialHost, evolves_trialHost, Or.inl ⟨⟨0⟩, .bool false, rfl⟩⟩

end Store

end DataParallel

import DataParallel.Proofs.Store.FirstTouch
import DataParallel.Store.Synchronization

/-!
# Consistent stores

Between two calls every entry of a store is either materialized or failed, and
a materialized one has an array for each slot.  In a consistent store a call of
`Store.getValue` therefore ends in one of five ways, which `Asked` lists with
all that each of them does; everything later is read off this list.
-/

namespace DataParallel

open Step

namespace Store

variable {σ : Type}

/-- What holds of a store and its host between two calls. -/
structure Consistent (x : Store σ × Host) : Prop where
  sound : x.2.pool.Sound
  single : x.1.server = none → x.1.registry.devices.length = 1
  settled : ∀ {id e}, x.1.find? id = some e → e.materialized = !e.failed
  full : ∀ {id e}, x.1.find? id = some e → e.materialized = true →
    e.replicas.length = x.1.registry.devices.length
  names : (x.1.entries.map Prod.fst).Nodup

/-- The result of asking a store for a parameter on a device, and the state
that is left. -/
inductive Asked (p : Parameter) (device : Device) (x : Store σ × Host) :
    Except Fault ArrayId × Store σ × Host → Prop where
  /-- The device is not registered. -/
  | unknown : device ∉ x.1.registry.devices → Asked p device x (.error (.unknownDevice device), x)
  /-- An earlier placement failed. -/
  | refused {slot : Nat} {e : Entry} : x.1.registry.slotOf device = .ok slot →
    x.1.find? p.id = some e → e.failed = true →
    Asked p device x (.error (.partlyPlaced p.id), x)
  /-- The replicas are there. -/
  | found {slot : Nat} {e : Entry} {b : ArrayId} : x.1.registry.slotOf device = .ok slot →
    x.1.find? p.id = some e → e.materialized = true → e.replicas[slot]? = some b →
    Asked p device x (.ok b, x)
  /-- The replicas are placed, and something fails on the way. -/
  | broken {slot : Nat} {arrays : List ArrayId} {server : Option σ} {k : Host} {fault : Fault} :
    x.1.registry.slotOf device = .ok slot → x.1.find? p.id = none →
    server.isSome = x.1.server.isSome → x.2.Evolves k →
    Asked p device x (.error fault, x.1.settled p arrays false server, k)
  /-- The replicas are placed. -/
  | placed {slot : Nat} {a b : ArrayId} {arrays : List ArrayId} {server : Option σ} {q : Pool}
      {k : Host} :
    x.1.registry.slotOf device = .ok slot → x.1.find? p.id = none →
    server.isSome = x.1.server.isSome → p.array = some a →
    Placement x.1 x.2.pool q device slot a arrays → x.2.pool.Extends q → q.Evolves k.pool →
    arrays[slot]? = some b →
    Asked p device x (.ok b, x.1.settled p arrays true server, k)

/-! ## What asking leaves -/

theorem Consistent.of_settled {x : Store σ × Host} (hx : Consistent x) {p : Parameter}
    {arrays : List ArrayId} {usable : Bool} {server : Option σ} {k : Host}
    (hserver : server.isSome = x.1.server.isSome) (hevolves : x.2.Evolves k)
    (hfull : usable = true → arrays.length = x.1.registry.devices.length) :
    Consistent (x.1.settled p arrays usable server, k) where
  sound := hevolves.sound hx.sound
  single := by
    intro hnone
    apply hx.single
    obtain rfl : server = none := hnone
    simpa using hserver
  settled := by
    intro id e hfind
    rw [find?_settled] at hfind
    split at hfind
    · rw [← Option.some.inj hfind]
      exact (Bool.not_not usable).symm
    · exact hx.settled hfind
  full := by
    intro id e hfind hmaterialized
    rw [find?_settled] at hfind
    split at hfind
    · rw [← Option.some.inj hfind] at hmaterialized ⊢
      exact hfull hmaterialized
    · exact hx.full hfind hmaterialized
  names := Keyed.nodup_put _ _ hx.names

theorem Asked.consistent {p : Parameter} {device : Device} {x : Store σ × Host}
    {r : Except Fault ArrayId × Store σ × Host} (h : Asked p device x r) (hx : Consistent x) :
    Consistent r.2 := by
  cases h with
  | unknown _ => exact hx
  | refused _ _ _ => exact hx
  | found _ _ _ _ => exact hx
  | broken _ _ hserver hevolves =>
    exact hx.of_settled hserver hevolves fun h => by cases h
  | placed _ _ hserver _ hplacement hext hq _ =>
    exact hx.of_settled hserver (hext.evolves.trans hq) fun _ => hplacement.length

theorem Asked.evolves {p : Parameter} {device : Device} {x : Store σ × Host}
    {r : Except Fault ArrayId × Store σ × Host} (h : Asked p device x r) :
    x.2.Evolves r.2.2 := by
  cases h with
  | unknown _ => exact Pool.Evolves.refl _
  | refused _ _ _ => exact Pool.Evolves.refl _
  | found _ _ _ _ => exact Pool.Evolves.refl _
  | broken _ _ _ hevolves => exact hevolves
  | placed _ _ _ _ _ hext hq _ => exact hext.evolves.trans hq

theorem Asked.registry {p : Parameter} {device : Device} {x : Store σ × Host}
    {r : Except Fault ArrayId × Store σ × Host} (h : Asked p device x r) :
    r.2.1.registry = x.1.registry ∧ r.2.1.server.isSome = x.1.server.isSome := by
  cases h with
  | unknown _ => exact ⟨rfl, rfl⟩
  | refused _ _ _ => exact ⟨rfl, rfl⟩
  | found _ _ _ _ => exact ⟨rfl, rfl⟩
  | broken _ _ hserver _ => exact ⟨rfl, hserver⟩
  | placed _ _ hserver _ _ _ _ _ => exact ⟨rfl, hserver⟩

/-- Asking for a parameter that has an entry changes nothing. -/
theorem Asked.unchanged {p : Parameter} {device : Device} {x : Store σ × Host}
    {r : Except Fault ArrayId × Store σ × Host} (h : Asked p device x r) {e : Entry}
    (hfind : x.1.find? p.id = some e) : r.2 = x := by
  have hsome : x.1.find? p.id ≠ none := by
    rw [hfind]
    exact Option.some_ne_none e
  cases h with
  | unknown _ => rfl
  | refused _ _ _ => rfl
  | found _ _ _ _ => rfl
  | broken _ hnone _ _ => exact absurd hnone hsome
  | placed _ hnone _ _ _ _ _ _ => exact absurd hnone hsome

/-- Entries stay as they are, and there is at most one new one, for the
parameter that was asked for. -/
theorem Asked.find? {p : Parameter} {device : Device} {x : Store σ × Host}
    {r : Except Fault ArrayId × Store σ × Host} (h : Asked p device x r) {id : String}
    {e : Entry} (hfind : r.2.1.find? id = some e) :
    x.1.find? id = some e ∨ (id = p.id ∧ x.1.find? id = none) := by
  have hnew : ∀ {arrays usable} {server : Option σ}, x.1.find? p.id = none →
      (x.1.settled p arrays usable server).find? id = some e →
      x.1.find? id = some e ∨ (id = p.id ∧ x.1.find? id = none) := by
    intro arrays usable server hnone hfind
    rw [find?_settled] at hfind
    split at hfind
    · next hid => exact Or.inr ⟨hid, by rw [hid, hnone]⟩
    · exact Or.inl hfind
  cases h with
  | unknown _ => exact Or.inl hfind
  | refused _ _ _ => exact Or.inl hfind
  | found _ _ _ _ => exact Or.inl hfind
  | broken _ hnone _ _ => exact hnew hnone hfind
  | placed _ hnone _ _ _ _ _ _ => exact hnew hnone hfind

theorem Asked.find?_of_some {p : Parameter} {device : Device} {x : Store σ × Host}
    {r : Except Fault ArrayId × Store σ × Host} (h : Asked p device x r) {id : String}
    {e : Entry} (hfind : x.1.find? id = some e) : r.2.1.find? id = some e := by
  have hnew : ∀ {arrays usable} {server : Option σ}, x.1.find? p.id = none →
      (x.1.settled p arrays usable server).find? id = some e := by
    intro arrays usable server hnone
    rw [find?_settled, if_neg, hfind]
    rintro rfl
    rw [hnone] at hfind
    cases hfind
  cases h with
  | unknown _ => exact hfind
  | refused _ _ _ => exact hfind
  | found _ _ _ _ => exact hfind
  | broken _ hnone _ _ => exact hnew hnone
  | placed _ hnone _ _ _ _ _ _ => exact hnew hnone

/-! ## Other devices, and dropped entries -/

/-- Going over to a server and devices makes a store without entries. -/
theorem setServer_ok (x : Store σ × Host) (v : σ) {devices : List Device} {r : Registry}
    (hr : Registry.ofDevices devices = .ok r) :
    ∃ k, k.pool = x.2.pool ∧ (setServer (some v) devices).runFrom x =
      (.ok (), { x.1 with registry := r, entries := [], server := some v }, k) := by
  obtain ⟨s, h⟩ := x
  have hok : (Step.ofExcept (Registry.ofDevices devices) :
      Step (Store σ × Host) Registry).runFrom (s, h) = (.ok r, s, h) := by
    rw [hr]
    rfl
  rw [setServer, runFrom_bind_of_ok hok, runFrom_bind_of_ok (runFrom_get _),
    runFrom_bind_of_ok (runFrom_modify _ _)]
  dsimp only
  split
  · refine ⟨_, ?_, rfl⟩
    rfl
  · refine ⟨_, ?_, rfl⟩
    rfl

theorem setServer_refused (x : Store σ × Host) (v : σ) {devices : List Device} {fault : Fault}
    (hr : Registry.ofDevices devices = .error fault) :
    (setServer (some v) devices).runFrom x = (.error fault, x) := by
  have hfault : (Step.ofExcept (Registry.ofDevices devices) :
      Step (Store σ × Host) Registry).runFrom x = (.error fault, x) := by
    rw [hr]
    rfl
  rw [setServer, runFrom_bind_of_error hfault]

/-- Otherwise going over fails and changes nothing. -/
theorem setServer_cases (x : Store σ × Host) (server : Option σ) (devices : List Device) :
    (∃ fault, (setServer server devices).runFrom x = (.error fault, x)) ∨
      ∃ v r k, server = some v ∧ Registry.ofDevices devices = .ok r ∧ k.pool = x.2.pool ∧
        (setServer server devices).runFrom x =
          (.ok (), { x.1 with registry := r, entries := [], server := some v }, k) := by
  rcases server with _ | v
  · exact Or.inl ⟨_, rfl⟩
  · rcases hr : Registry.ofDevices devices with fault | r
    · exact Or.inl ⟨fault, setServer_refused x v hr⟩
    · obtain ⟨k, hpool, hrun⟩ := setServer_ok x v hr
      exact Or.inr ⟨v, r, k, rfl, rfl, hpool, hrun⟩

theorem Consistent.of_no_entries {x : Store σ × Host} (hp : x.2.pool.Sound)
    (hsingle : x.1.server = none → x.1.registry.devices.length = 1)
    (hentries : x.1.entries = []) : Consistent x where
  sound := hp
  single := hsingle
  settled h := by
    rw [Store.find?, hentries] at h
    cases h
  full h := by
    rw [Store.find?, hentries] at h
    cases h
  names := by
    rw [hentries]
    exact List.nodup_nil

theorem find?_reset (s : Store σ) (id : Option String) (name : String) :
    (s.reset id).find? name =
      if id = none ∨ id = some name then none else s.find? name := by
  rcases id with _ | id
  · rfl
  · rw [reset, Store.find?, Keyed.lookup_drop]
    by_cases h : name = id
    · simp [h]
    · simp [h, Ne.symm h, Store.find?]

theorem Consistent.reset {x : Store σ × Host} (hx : Consistent x) (id : Option String) :
    Consistent (x.1.reset id, x.2) := by
  have hfind : ∀ {name e}, (x.1.reset id).find? name = some e → x.1.find? name = some e := by
    intro name e h
    rw [find?_reset] at h
    split at h
    · cases h
    · exact h
  have hsame : (x.1.reset id).registry = x.1.registry ∧ (x.1.reset id).server = x.1.server := by
    rcases id with _ | id <;> exact ⟨rfl, rfl⟩
  constructor
  · exact hx.sound
  · rw [hsame.1, hsame.2]
    exact hx.single
  · intro name e h
    exact hx.settled (hfind h)
  · intro name e h
    rw [hsame.1]
    exact hx.full (hfind h)
  · rcases id with _ | id
    · exact List.nodup_nil
    · exact Keyed.nodup_drop id hx.names

/-! ## Synchronization -/

theorem mem_trainable {s : Store σ} (hnames : (s.entries.map Prod.fst).Nodup) {id : String} :
    id ∈ s.trainable ↔ ∃ e, s.find? id = some e ∧ e.trainable = true := by
  rw [trainable, List.mem_map]
  constructor
  · rintro ⟨⟨name, e⟩, hmem, rfl⟩
    obtain ⟨hentry, htrainable⟩ := List.mem_filter.mp hmem
    exact ⟨e, (Keyed.mem_iff_lookup hnames).mp hentry, htrainable⟩
  · rintro ⟨e, hfind, htrainable⟩
    exact ⟨(id, e), List.mem_filter.mpr ⟨(Keyed.mem_iff_lookup hnames).mpr hfind, htrainable⟩, rfl⟩

theorem nodup_trainable {s : Store σ} (hnames : (s.entries.map Prod.fst).Nodup) :
    s.trainable.Nodup :=
  hnames.sublist (List.Sublist.map Prod.fst List.filter_sublist)

/-- Entries, registry and manager are the same, the server is another state of
the same one, and the pool has evolved. -/
def KeepsTable (x y : Store σ × Host) : Prop :=
  (∃ server, y.1 = { x.1 with server := server } ∧ server.isSome = x.1.server.isSome) ∧
    x.2.Evolves y.2

instance : IsPreorder (Store σ × Host) KeepsTable where
  refl x := ⟨⟨x.1.server, rfl, rfl⟩, Pool.Evolves.refl _⟩
  trans := by
    rintro x y z ⟨⟨server, hy, hserver⟩, hxy⟩ ⟨⟨server', hz, hserver'⟩, hyz⟩
    refine ⟨⟨server', ?_, ?_⟩, Pool.Evolves.trans hxy hyz⟩
    · rw [hz, hy]
    · rw [hserver', hy]
      exact hserver

theorem KeepsTable.consistent {x y : Store σ × Host} (h : KeepsTable x y)
    (hx : Consistent x) : Consistent y := by
  obtain ⟨⟨server, hy, hserver⟩, hevolves⟩ := h
  constructor
  · exact hevolves.sound hx.sound
  · rw [hy]
    intro hnone
    apply hx.single
    obtain rfl : server = none := hnone
    simpa using hserver
  · rw [hy]
    exact hx.settled
  · rw [hy]
    exact hx.full
  · rw [hy]
    exact hx.names

theorem along_onServer {step : Step (σ × Host) Unit}
    (hstep : Along (Beside Host.Evolves) step) : Along KeepsTable (onServer step) := by
  rintro ⟨s, h⟩
  obtain ⟨server, k, hrun, hserver, hevolves⟩ := onServer_evolves hstep s h
  rw [hrun]
  exact ⟨⟨server, rfl, hserver⟩, hevolves⟩

theorem along_gradient (a : ArrayId) :
    Along KeepsTable (Step.second (Host.onPool (Pool.gradient a)) : Step (Store σ × Host) _) := by
  rintro ⟨s, h⟩
  exact ⟨⟨s.server, rfl, rfl⟩, Pool.along_gradient a h.pool⟩

section Round

variable {R : Store σ × Host → Store σ × Host → Prop} [IsPreorder (Store σ × Host) R]

theorem along_gradients
    (hgradient : ∀ a, Along R (Step.second (Host.onPool (Pool.gradient a))))
    (arrays : List ArrayId) : Along R (gradients arrays) := by
  induction arrays with
  | nil => exact along_pure _
  | cons a rest ih =>
    exact along_bind (hgradient a) fun g => along_bind ih fun gs => along_pure _

theorem along_checkPlaced (ids : List String) : Along R (checkPlaced ids) := by
  induction ids with
  | nil => exact along_pure _
  | cons id rest ih =>
    refine along_bind along_get fun x => ?_
    split
    · exact along_throw_bind _
    · exact ih

variable [ParameterServer σ]

theorem along_pushAll
    (hgradient : ∀ a, Along R (Step.second (Host.onPool (Pool.gradient a))))
    (hpush : ∀ id gs priority, Along R (onServer (ParameterServer.push id gs priority)))
    (rank : Nat) (ids : List String) : Along R (pushAll rank ids) := by
  induction ids generalizing rank with
  | nil => exact along_pure _
  | cons id rest ih =>
    refine along_bind along_get fun x => along_bind (along_gradients hgradient _) fun gs => ?_
    exact along_bind (hpush id gs _) fun _ => ih (rank + 1)

theorem along_pullAll
    (hpull : ∀ id arrays priority, Along R (onServer (ParameterServer.pull id arrays priority)))
    (rank : Nat) (ids : List String) : Along R (pullAll rank ids) := by
  induction ids generalizing rank with
  | nil => exact along_pure _
  | cons id rest ih =>
    exact along_bind along_get fun x => along_bind (hpull id _ _) fun _ => ih (rank + 1)

/-- A round goes where gradients, pushes and pulls go. -/
theorem along_round
    (hgradient : ∀ a, Along R (Step.second (Host.onPool (Pool.gradient a))))
    (hpush : ∀ id gs priority, Along R (onServer (ParameterServer.push id gs priority)))
    (hpull : ∀ id arrays priority, Along R (onServer (ParameterServer.pull id arrays priority))) :
    Along R updateAll := by
  refine along_bind along_get fun x => ?_
  dsimp only
  split
  · exact along_throw_bind _
  · exact along_bind (along_checkPlaced _) fun _ =>
      along_bind (along_pushAll hgradient hpush 0 _) fun _ => along_pullAll hpull 0 _

end Round

variable [ParameterServer σ]

/-- A materialized entry answers for every registered device, and nothing changes. -/
theorem Consistent.answer {x : Store σ × Host} (hx : Consistent x) {p : Parameter}
    {device : Device} {slot : Nat} {e : Entry} (hslot : x.1.registry.slotOf device = .ok slot)
    (hfind : x.1.find? p.id = some e) (hm : e.materialized = true) :
    ∃ b, e.replicas[slot]? = some b ∧ (getValue p device).runFrom x = (.ok b, x) := by
  have hlt : slot < e.replicas.length := by
    rw [hx.full hfind hm]
    exact (List.getElem?_eq_some_iff.mp (Registry.slotOf_eq_ok.mp hslot)).1
  have hget : e.replicas[slot]? = some e.replicas[slot] := List.getElem?_eq_getElem hlt
  have hfailed : e.failed = false := by
    have hsettled := hx.settled hfind
    rw [hm] at hsettled
    simpa using hsettled.symm
  exact ⟨e.replicas[slot], hget, getValue_of_materialized hslot hfind hfailed hm hget⟩

variable [Contained σ]

/-- A round touches no entry, whether it succeeds or not. -/
theorem along_updateAll : Along KeepsTable (updateAll : Step (Store σ × Host) Unit) :=
  along_round along_gradient (fun id gs priority => along_onServer (Contained.push id gs priority))
    fun id arrays priority => along_onServer (Contained.pull id arrays priority)

/-! ## How asking ends -/

theorem Consistent.asked {x : Store σ × Host} (hx : Consistent x) {p : Parameter}
    (harray : ∀ a ∈ p.array, x.2.pool.Has a) (device : Device) :
    Asked p device x ((getValue p device).runFrom x) := by
  obtain ⟨s, h⟩ := x
  by_cases hdevice : device ∈ s.registry.devices
  · obtain ⟨slot, hslot, -⟩ := Registry.exists_slotOf hdevice
    rcases hfind : s.find? p.id with _ | e
    · obtain ⟨arrays, server, k, hserver, hevolves, ⟨fault, hrun⟩ | hplaced⟩ :=
        getValue_first hslot hfind hx.sound harray hx.single
      · rw [hrun]
        exact .broken hslot hfind hserver hevolves
      · obtain ⟨a, b, q, ha, hplacement, hext, hq, hb, hrun⟩ := hplaced
        rw [hrun]
        exact .placed hslot hfind hserver ha hplacement hext hq hb
    · have hsettled := hx.settled hfind
      rcases hfailed : e.failed
      · rw [hfailed] at hsettled
        obtain ⟨b, hget, hrun⟩ := hx.answer (p := p) hslot hfind hsettled
        rw [hrun]
        exact .found hslot hfind hsettled hget
      · rw [getValue_of_failed hslot hfind hfailed]
        exact .refused hslot hfind hfailed
  · rw [getValue_of_not_mem hdevice]
    exact .unknown hdevice

end Store

end DataParallel

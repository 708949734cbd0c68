import DataParallel.Proofs.Store.Consistent
import DataParallel.Store.Crowd

/-!
# Between the parts of a call

Between two parts of a call its entry may wait: it is in the table, and its replicas are still to be
placed.  `Regular` says what holds of a store then.  Whatever the parts of other calls do and
whatever the server does in them, no entry goes away, and one that is placed or failed stays as it
is: this is `Onward`.
-/

namespace DataParallel

open Step

/-! ## Entries -/

/-- The entry of a parameter whose replicas are still to be placed. -/
def Entry.waiting (trainable : Bool) : Entry := ⟨trainable, [], false, false⟩

/-- A placement has failed, or it has filled a number of slots. -/
def Entry.Settled (e : Entry) (slots : Nat) : Prop :=
  (e.failed = true ∧ e.materialized = false) ∨
    (e.failed = false ∧ e.materialized = true ∧ e.replicas.length = slots)

/-- What a call gets from an entry that is placed or failed. -/
def Entry.answer (e : Entry) (id : String) (slot : Nat) : Except Fault ArrayId :=
  if e.failed then .error (.partlyPlaced id) else e.replicas[slot]?.elim (.error .outOfRange) .ok

namespace Store

variable {σ : Type}

/-- The store with an entry for a parameter. -/
def ensured (s : Store σ) (p : Parameter) : Store σ := if s.contains p.id then s else s.opened p

theorem runFrom_ensureEntry (s : Store σ) (h : Host) (p : Parameter) :
    (ensureEntry p).runFrom (s, h) = (.ok (), s.ensured p, h) := by
  rw [ensured]
  rcases hfind : s.find? p.id with _ | e
  · have hcontains : s.contains p.id = false := by simp [contains, hfind]
    rw [hcontains]
    exact runFrom_ensureEntry_new hfind
  · have hcontains : s.contains p.id = true := by simp [contains, hfind]
    rw [ensureEntry, runFrom_bind_of_ok (runFrom_get _), hcontains]
    rfl

theorem find?_ensured (s : Store σ) (p : Parameter) (name : String) :
    (s.ensured p).find? name =
      if name = p.id ∧ s.find? p.id = none then some (.waiting p.requiresGradient.truthy)
      else s.find? name := by
  rw [ensured]
  rcases hfind : s.find? p.id with _ | e
  · have hcontains : s.contains p.id = false := by simp [contains, hfind]
    rw [hcontains, if_neg Bool.false_ne_true, opened, Store.find?, Keyed.lookup_put]
    by_cases hname : name = p.id
    · simp [hname, Entry.waiting]
    · simp [hname, Store.find?]
  · have hcontains : s.contains p.id = true := by simp [contains, hfind]
    rw [hcontains, if_pos rfl]
    simp

theorem isSome_find?_ensured (s : Store σ) (p : Parameter) :
    ((s.ensured p).find? p.id).isSome := by
  rw [find?_ensured]
  rcases s.find? p.id with _ | e
  · simp
  · simp

theorem ensured_same (s : Store σ) (p : Parameter) :
    (s.ensured p).registry = s.registry ∧ (s.ensured p).manager = s.manager ∧
      (s.ensured p).server = s.server := by
  rw [ensured]
  split
  · exact ⟨rfl, rfl, rfl⟩
  · exact ⟨rfl, rfl, rfl⟩

theorem take_answered [ParameterServer σ] {p : Parameter} {x : Store σ × Host}
    {e : Entry} (hfind : x.1.find? p.id = some e) (he : e.failed = true ∨ e.materialized = true)
    (device : Device) (slot : Nat) :
    (take p device slot).runFrom x = (e.answer p.id slot, x) := by
  rw [take, runFrom_bind_of_ok (runFrom_get _), Entry.answer]
  rcases hfailed : e.failed
  · have hm : e.materialized = true := by simpa [hfailed] using he
    have hreplicas : x.1.replicas p.id = e.replicas := by rw [replicas, hfind]; rfl
    rcases hb : e.replicas[slot]? with _ | b
    · simp [hfind, hfailed, hm, runFrom_bind, hreplicas, hb]
    · simp [hfind, hfailed, hm, runFrom_bind, hreplicas, hb]
  · simp [hfind, hfailed]

end Store

/-! ## Between two parts -/

section Between

variable {σ : Type}

/-- What is known of a call in the middle of others: its slot is that of its device, and behind the
second part its parameter has an entry. -/
structure Caller.Sane (c : Caller) (x : Store σ × Host) : Prop where
  registered : c.device ∈ x.1.registry.devices
  array : ∀ a ∈ c.parameter.array, x.2.pool.Has a
  located : ∀ slot, c.stage = .located slot → x.1.registry.slotOf c.device = .ok slot
  listed : ∀ slot, c.stage = .listed slot →
    x.1.registry.slotOf c.device = .ok slot ∧ ∃ e, x.1.find? c.parameter.id = some e

/-- Every entry of a store with a server waits or is settled. -/
structure Regular (x : Store σ × Host) : Prop where
  sound : x.2.pool.Sound
  server : x.1.server.isSome
  entries : ∀ {id e}, x.1.find? id = some e →
    (∃ trainable, e = .waiting trainable) ∨ e.Settled x.1.registry.devices.length

/-- Between two calls no entry waits. -/
theorem Store.Consistent.regular {x : Store σ × Host} (hx : Consistent x)
    (hserver : x.1.server.isSome) : Regular x := by
  refine ⟨hx.sound, hserver, fun {id e} hfind => .inr ?_⟩
  have hsettled := hx.settled hfind
  rcases hfailed : e.failed
  · rw [hfailed] at hsettled
    exact .inr ⟨hfailed, hsettled, hx.full hfind hsettled⟩
  · rw [hfailed] at hsettled
    exact .inl ⟨hfailed, hsettled⟩

theorem Caller.Sane.of_begun {c : Caller} {x : Store σ × Host} (hbegun : c.stage = .begun)
    (hdevice : c.device ∈ x.1.registry.devices) (harray : ∀ a ∈ c.parameter.array, x.2.pool.Has a) :
    c.Sane x := by
  refine ⟨hdevice, harray, fun slot hstage => ?_, fun slot hstage => ?_⟩
  · cases hbegun.symm.trans hstage
  · cases hbegun.symm.trans hstage

/-- What becomes of a store and its host by parts of calls and rounds: no entry goes away, and those
that are placed or failed stay as they are. -/
structure Onward (x y : Store σ × Host) : Prop where
  registry : y.1.registry = x.1.registry
  evolves : x.2.Evolves y.2
  settled : ∀ {id e}, x.1.find? id = some e → e.failed = true ∨ e.materialized = true →
    y.1.find? id = some e
  present : ∀ {id}, (x.1.find? id).isSome → (y.1.find? id).isSome
  regular : Regular y

theorem Onward.refl {x : Store σ × Host} (hx : Regular x) : Onward x x :=
  ⟨rfl, Pool.Evolves.refl _, fun hfind _ => hfind, id, hx⟩

theorem Onward.sane {x y : Store σ × Host} (h : Onward x y) {c : Caller} (hc : c.Sane x) :
    c.Sane y where
  registered := h.registry ▸ hc.registered
  array a ha := h.evolves.has (hc.array a ha)
  located slot hstage := h.registry ▸ hc.located slot hstage
  listed slot hstage := by
    obtain ⟨hslot, e, hfind⟩ := hc.listed slot hstage
    have hsome : (y.1.find? c.parameter.id).isSome := h.present (by rw [hfind]; rfl)
    exact ⟨h.registry ▸ hslot, Option.isSome_iff_exists.mp hsome⟩

theorem Onward.isMaterialized {x y : Store σ × Host} (h : Onward x y) {id : String}
    (hid : x.1.isMaterialized id = true) : y.1.isMaterialized id = true := by
  rcases hfind : x.1.find? id with _ | e
  · simp [Store.isMaterialized, hfind] at hid
  · have hm : e.materialized = true := by simpa [Store.isMaterialized, hfind] using hid
    simp [Store.isMaterialized, h.settled hfind (.inr hm), hm]

/-- A part that touches no entry. -/
theorem Store.KeepsTable.onward {x y : Store σ × Host} (h : KeepsTable x y) (hx : Regular x) :
    Onward x y := by
  obtain ⟨⟨server, hy, hserver⟩, hevolves⟩ := h
  have hfind : ∀ id, y.1.find? id = x.1.find? id := by
    intro id
    rw [hy]
    rfl
  refine ⟨by rw [hy], hevolves, fun hid _ => (hfind _).trans hid, ?_, ?_⟩
  · intro id hid
    rw [hfind]
    exact hid
  · refine ⟨hevolves.sound hx.sound, ?_, ?_⟩
    · rw [hy]
      exact hserver.trans hx.server
    · intro id e hid
      rw [hfind] at hid
      rw [hy]
      exact hx.entries hid

theorem Store.onward_ensured {x : Store σ × Host} (hx : Regular x) (p : Parameter) :
    Onward x (x.1.ensured p, x.2) := by
  obtain ⟨hregistry, -, hserver⟩ := Store.ensured_same x.1 p
  have hold : ∀ {id e}, x.1.find? id = some e → (x.1.ensured p).find? id = some e := by
    intro id e hfind
    rw [find?_ensured, if_neg, hfind]
    rintro ⟨rfl, hnone⟩
    simp [hfind] at hnone
  refine ⟨hregistry, Pool.Evolves.refl _, fun hfind _ => hold hfind, ?_, hx.sound, ?_, ?_⟩
  · intro id hid
    obtain ⟨e, hfind⟩ := Option.isSome_iff_exists.mp hid
    rw [hold hfind]
    rfl
  · rw [hserver]
    exact hx.server
  · intro id e hfind
    rw [find?_ensured] at hfind
    rw [hregistry]
    split at hfind
    · exact .inl ⟨_, (Option.some.inj hfind).symm⟩
    · exact hx.entries hfind

/-- An entry that waited is settled. -/
theorem Onward.of_settled {x y : Store σ × Host} (hx : Regular x) {id : String} {trainable : Bool}
    {e : Entry} (hregistry : y.1.registry = x.1.registry) (hserver : y.1.server.isSome)
    (hevolves : x.2.Evolves y.2) (hothers : ∀ name, name ≠ id → y.1.find? name = x.1.find? name)
    (hold : x.1.find? id = some (.waiting trainable)) (hnew : y.1.find? id = some e)
    (he : e.Settled x.1.registry.devices.length) : Onward x y := by
  refine ⟨hregistry, hevolves, ?_, ?_, hevolves.sound hx.sound, hserver, ?_⟩
  · intro name e' hfind he'
    have hne : name ≠ id := by
      rintro rfl
      obtain rfl := Option.some.inj (hold.symm.trans hfind)
      simp [Entry.waiting] at he'
    exact (hothers name hne).trans hfind
  · intro name hname
    by_cases hid : name = id
    · rw [hid, hnew]
      rfl
    · rw [hothers name hid]
      exact hname
  · intro name e' hfind
    rw [hregistry]
    by_cases hid : name = id
    · obtain rfl := Option.some.inj (hnew.symm.trans (hid ▸ hfind))
      exact .inr he
    · rw [hothers name hid] at hfind
      exact hx.entries hfind

end Between

/-! ## The parts of a call -/

section Parts

variable {σ : Type} [ParameterServer σ] {p : Parameter} {device : Device}

namespace Caller

theorem advance_of_ok {c : Caller} {x y : Store σ × Host} {stage : Stage}
    (h : c.next.runFrom x = (.ok stage, y)) : c.advance x = ({ c with stage := stage }, y) := by
  rw [advance, h]

theorem advance_of_error {c : Caller} {x y : Store σ × Host} {fault : Fault}
    (h : c.next.runFrom x = (.error fault, y)) :
    c.advance x = ({ c with stage := .ended (.error fault) }, y) := by
  rw [advance, h]

theorem advance_begun {x : Store σ × Host} {slot : Nat}
    (hslot : x.1.registry.slotOf device = .ok slot) :
    (⟨p, device, .begun⟩ : Caller).advance x = (⟨p, device, .located slot⟩, x) := by
  have hrun : (Store.slotOf device).runFrom x = (.ok slot, x) := by
    rw [Store.runFrom_slotOf, hslot]
  apply advance_of_ok
  rw [next, runFrom_bind_of_ok hrun]
  rfl

theorem advance_unknown {x : Store σ × Host} {fault : Fault}
    (hslot : x.1.registry.slotOf device = .error fault) :
    (⟨p, device, .begun⟩ : Caller).advance x = (⟨p, device, .ended (.error fault)⟩, x) := by
  have hrun : (Store.slotOf device).runFrom x = (.error fault, x) := by
    rw [Store.runFrom_slotOf, hslot]
  apply advance_of_error
  rw [next, runFrom_bind_of_error hrun]

theorem advance_located (slot : Nat) (x : Store σ × Host) :
    (⟨p, device, .located slot⟩ : Caller).advance x =
      (⟨p, device, .listed slot⟩, x.1.ensured p, x.2) := by
  apply advance_of_ok
  rw [next, runFrom_bind_of_ok (Store.runFrom_ensureEntry x.1 x.2 p)]
  rfl

theorem advance_listed (slot : Nat) (x : Store σ × Host) :
    (⟨p, device, .listed slot⟩ : Caller).advance x =
      (⟨p, device, .ended ((Store.take p device slot).runFrom x).1⟩,
        ((Store.take p device slot).runFrom x).2) := by
  rcases hrun : (Store.take p device slot).runFrom x with ⟨fault | b, y⟩
  · apply advance_of_error
    rw [next, runFrom_bind_of_error hrun]
  · apply advance_of_ok
    rw [next, runFrom_bind_of_ok hrun]
    rfl

theorem advance_ended (result : Except Fault ArrayId) (x : Store σ × Host) :
    (⟨p, device, .ended result⟩ : Caller).advance x = (⟨p, device, .ended result⟩, x) :=
  rfl

/-- A call knows what it needs for its next part. -/
theorem Sane.advance {c : Caller} {x : Store σ × Host} (hc : c.Sane x)
    (honward : Onward x (c.advance x).2) : (c.advance x).1.Sane (c.advance x).2 := by
  have hsame : c.Sane (c.advance x).2 := honward.sane hc
  obtain ⟨p, device, stage⟩ := c
  cases stage with
  | begun =>
    obtain ⟨slot, hslot, -⟩ := Registry.exists_slotOf hc.registered
    rw [advance_begun hslot]
    refine ⟨hc.registered, hc.array, ?_, nofun⟩
    rintro _ ⟨⟩
    exact hslot
  | located slot =>
    rw [advance_located] at hsame ⊢
    refine ⟨hsame.registered, hsame.array, nofun, ?_⟩
    rintro _ ⟨⟩
    exact ⟨hsame.located slot rfl, Option.isSome_iff_exists.mp (Store.isSome_find?_ensured x.1 p)⟩
  | listed slot =>
    rw [advance_listed] at hsame ⊢
    exact ⟨hsame.registered, hsame.array, nofun, nofun⟩
  | ended result => exact hc

end Caller

/-- A call that is alone does what it does undivided. -/
theorem Crowd.after_alone (p : Parameter) (device : Device) (x : Store σ × Host) :
    (⟨[.begin p device], x⟩ : Crowd σ).after [0, 0, 0] =
      ⟨[⟨p, device, .ended ((Store.getValue p device).runFrom x).1⟩],
        ((Store.getValue p device).runFrom x).2⟩ := by
  have hturns : (⟨[.begin p device], x⟩ : Crowd σ).after [0, 0, 0] =
      let y := (Caller.begin p device).advance x
      let z := y.1.advance y.2
      ⟨[(z.1.advance z.2).1], (z.1.advance z.2).2⟩ := rfl
  rw [hturns, Caller.begin]
  rcases hslot : x.1.registry.slotOf device with fault | slot
  · have hrun : (Store.slotOf device).runFrom x = (.error fault, x) := by
      rw [Store.runFrom_slotOf, hslot]
    rw [Caller.advance_unknown hslot, Store.getValue, runFrom_bind_of_error hrun]
    rfl
  · have hrun : (Store.slotOf device).runFrom x = (.ok slot, x) := by
      rw [Store.runFrom_slotOf, hslot]
    rw [Caller.advance_begun hslot, Store.getValue, runFrom_bind_of_ok hrun,
      runFrom_bind_of_ok (Store.runFrom_ensureEntry x.1 x.2 p)]
    dsimp only
    rw [Caller.advance_located, Caller.advance_listed]

namespace Crowd

/-- A turn of a call that there is. -/
theorem turn_of_some {now : Crowd σ} {i : Nat} {c : Caller} (hc : now.callers[i]? = some c) :
    now.turn i = ⟨now.callers.set i (c.advance now.shared).1, (c.advance now.shared).2⟩ := by
  rw [turn, hc]

theorem turn_of_none {now : Crowd σ} {i : Nat} (hc : now.callers[i]? = none) :
    now.turn i = now := by
  rw [turn, hc]

end Crowd

end Parts

/-! ## Whatever the server does -/

section Contained

open Store

variable {σ : Type} [ParameterServer σ] [Contained σ]

theorem Store.onward_take {x : Store σ × Host} (hx : Regular x) {p : Parameter} {device : Device}
    {slot : Nat} (harray : ∀ a ∈ p.array, x.2.pool.Has a)
    (hslot : x.1.registry.slotOf device = .ok slot) {e : Entry}
    (hfind : x.1.find? p.id = some e) : Onward x ((take p device slot).runFrom x).2 := by
  have hanswered : e.failed = true ∨ e.materialized = true →
      Onward x ((take p device slot).runFrom x).2 := by
    intro he
    rw [take_answered hfind he]
    exact .refl hx
  rcases hx.entries hfind with ⟨trainable, rfl⟩ | ⟨hfailed, -⟩ | ⟨-, hm, -⟩
  · obtain ⟨s, h⟩ := x
    have hsingle : s.server = none → s.registry.devices.length = 1 := by
      intro hnone
      have hsome := hx.server
      simp [hnone] at hsome
    obtain ⟨arrays, server, k, hstate, hserver, hevolves, hok⟩ :=
      runFrom_materialize hx.sound harray hslot hsingle
    rw [runFrom_take_awaiting hfind rfl rfl]
    have hfilled : ∀ f : Entry → Entry,
        (f ⟨trainable, arrays, false, false⟩).Settled s.registry.devices.length →
        Onward (s, h) ((s.filled p.id arrays server).updateEntry p.id f, k) := by
      intro f he
      refine .of_settled hx rfl (hserver.trans hx.server) hevolves (fun name hname => ?_) hfind ?_
        he
      · rw [find?_updateEntry, if_neg hname, find?_filled, if_neg hname]
      · rw [find?_updateEntry, if_pos rfl, find?_filled, if_pos rfl, hfind]
        rfl
    rcases hrun : (materialize p device slot).runFrom (s, h) with ⟨fault | ⟨⟩, y⟩
    · rw [hrun] at hstate
      obtain rfl : y = (s.filled p.id arrays server, k) := hstate
      exact hfilled _ (.inl ⟨rfl, rfl⟩)
    · rw [hrun] at hstate hok
      obtain rfl : y = (s.filled p.id arrays server, k) := hstate
      obtain ⟨a, q, -, hplacement, -⟩ := hok rfl
      exact hfilled _ (.inr ⟨rfl, rfl, hplacement.length⟩)
  · exact hanswered (.inl hfailed)
  · exact hanswered (.inr hm)

theorem Caller.onward {c : Caller} {x : Store σ × Host} (hx : Regular x) (hc : c.Sane x) :
    Onward x (c.advance x).2 := by
  obtain ⟨p, device, stage⟩ := c
  cases stage with
  | begun =>
    obtain ⟨slot, hslot, -⟩ := Registry.exists_slotOf hc.registered
    rw [advance_begun hslot]
    exact .refl hx
  | located slot =>
    rw [advance_located]
    exact onward_ensured hx p
  | listed slot =>
    obtain ⟨hslot, e, hfind⟩ := hc.listed slot rfl
    rw [advance_listed]
    exact onward_take hx hc.array hslot hfind
  | ended result => exact .refl hx

end Contained

end DataParallel

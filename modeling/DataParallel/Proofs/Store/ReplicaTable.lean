import DataParallel.Proofs.Pool.Apart
import DataParallel.Proofs.Store.Runs

/-!
# The replica table

In every state of every run each entry is either materialized or failed, and a
materialized one has one replica for each registered device, all of them apart
from each other.  The canonical array sits in the slot of the call that placed
the parameter, and copies sit on the devices of the other slots.
-/

namespace DataParallel

open Step

namespace Store

variable {σ : Type}

/-- A placement leaves a family of copies. -/
theorem Placement.family {s : Store σ} {p q : Pool} {device : Device} {slot : Nat}
    {a : ArrayId} {arrays : List ArrayId} (h : Placement s p q device slot a arrays)
    (hpq : p.Extends q) (ha : p.Has a) : q.Family a arrays where
  nodup := h.nodup
  canonical := hpq.has ha
  copy := by
    intro c hc hne
    obtain ⟨i, hi⟩ := List.mem_iff_getElem?.mp hc
    obtain ⟨d, t, -, -, hcopy⟩ := h.copy hi hne
    refine ⟨?_, hcopy.has, hcopy.original, hcopy.lone⟩
    exact Nat.lt_of_lt_of_le ha (Nat.le_of_not_lt hcopy.fresh)

/-- What a materialized entry of a parameter has in a state. -/
structure InPlace [ParameterServer σ] (x : Store σ × Host) (id : String) (e : Entry) : Prop where
  /-- There is one replica for each registered device. -/
  length : e.replicas.length = x.1.registry.devices.length
  /-- Without a server there is one replica. -/
  alone : x.1.server = none → e.replicas.length = 1
  /-- Asking for the parameter gives the replica in the slot and changes nothing. -/
  value : ∀ {p : Parameter} {device slot}, p.id = id → x.1.registry.slotOf device = .ok slot →
    ∃ b, e.replicas[slot]? = some b ∧ (getValue p device).runFrom x = (.ok b, x)
  /-- The replicas are different arrays. -/
  nodup : e.replicas.Nodup
  /-- They share no buffer with each other, nor do their gradients. -/
  apart : ∀ {b c}, b ∈ e.replicas → c ∈ e.replicas → b ≠ c → x.2.pool.Apart b c
  /-- Writing to one of them or to its gradient leaves the others and theirs alone. -/
  write : ∀ {b c u v}, b ∈ e.replicas → c ∈ e.replicas → b ≠ c → x.2.pool.OwnOrGradient b u →
    x.2.pool.OwnOrGradient c v → ∀ t,
      ((Pool.set u t).runFrom x.2.pool).2.contents? v = x.2.pool.contents? v

/-- Where the arrays of a parameter are that a call on a device placed in the
state `z`, when the state is `x`. -/
structure Seated (z x : Store σ × Host) (device : Device) (slot : Nat) (a : ArrayId)
    (arrays : List ArrayId) : Prop where
  /-- With a server the slot of the call has the canonical array, and no other slot has it. -/
  canonical : x.1.server.isSome → ∀ i, arrays[i]? = some a ↔ i = slot
  /-- With a server every other slot has an array on its device. -/
  others : x.1.server.isSome → ∀ {i c}, arrays[i]? = some c → i ≠ slot →
    ∃ d, x.1.registry.devices[i]? = some d ∧ (x.2.pool.array c).device = d.or .cpu
  /-- Without a server the one array is on the device of the call, and it is the canonical one
  if the store does not copy and that was on the device already. -/
  alone : x.1.server = none → ∃ c, arrays = [c] ∧
    (x.2.pool.array c).device = (if c = a then device else device.or .cpu) ∧
    (c = a ↔ z.1.copy.truthy = false ∧ (z.2.pool.array a).device = device)

theorem Placement.seated {z x : Store σ × Host} {q : Pool} {device : Device} {slot : Nat}
    {a : ArrayId} {arrays : List ArrayId}
    (h : Placement z.1 z.2.pool q device slot a arrays) (hx : Consistent x)
    (hslot : z.1.registry.slotOf device = .ok slot) (ha : z.2.pool.Has a)
    (hzq : z.2.pool.Extends q) (hqx : q.Evolves x.2.pool)
    (hregistry : x.1.registry = z.1.registry)
    (hserver : x.1.server.isSome = z.1.server.isSome) :
    Seated z x device slot a arrays := by
  have hcopied : ∀ {i : Nat} {c}, arrays[i]? = some c → c ≠ a →
      ∃ d, x.1.registry.devices[i]? = some d ∧ (x.2.pool.array c).device = d.or .cpu := by
    intro i c hc hne
    obtain ⟨d, t, hd, -, hcopy⟩ := h.copy hc hne
    refine ⟨d, by rw [hregistry, hd], ?_⟩
    rw [hqx.device hcopy.has, hcopy.device]
  constructor
  · intro hsome i
    rw [h.canonical i]
    simp [← hserver, hsome]
  · intro hsome i c hc hne
    apply hcopied hc
    rintro rfl
    exact hne ((h.canonical i).mp hc).1
  · intro hnone
    have hz : z.1.server = none := by simpa [hnone] using hserver.symm
    have hlen : arrays.length = 1 := by
      rw [h.length, ← hregistry, hx.single hnone]
    obtain ⟨c, rfl⟩ := List.length_eq_one_iff.mp hlen
    obtain ⟨d, hd⟩ := List.length_eq_one_iff.mp (hx.single hnone)
    have hdevice := Registry.slotOf_eq_ok.mp hslot
    rw [← hregistry, hd] at hdevice
    obtain ⟨rfl, rfl⟩ : slot = 0 ∧ d = device := by
      rcases slot with _ | slot
      · exact ⟨rfl, Option.some.inj hdevice⟩
      · cases hdevice
    have hcanonical : c = a ↔ z.1.copy.truthy = false ∧ (z.2.pool.array a).device = d := by
      simpa [hz] using h.canonical 0
    refine ⟨c, rfl, ?_, hcanonical⟩
    split
    · next hca =>
      rw [hca, hqx.device (hzq.has ha), hzq.array ha]
      exact (hcanonical.mp hca).2
    · next hca =>
      obtain ⟨d', hd', hdevice'⟩ := hcopied (i := 0) rfl hca
      rw [hd] at hd'
      rw [hdevice', ← Option.some.inj hd']

/-- A materialized entry that was not there before comes from a placement. -/
theorem Asked.placement {p : Parameter} {device : Device} {z : Store σ × Host}
    {r : Except Fault ArrayId × Store σ × Host} (h : Asked p device z r) {e : Entry}
    (hnone : z.1.find? p.id = none) (hfind : r.2.1.find? p.id = some e)
    (hm : e.materialized = true) :
    ∃ slot a b q, z.1.registry.slotOf device = .ok slot ∧ p.array = some a ∧ r.1 = .ok b ∧
      e.replicas[slot]? = some b ∧ Placement z.1 z.2.pool q device slot a e.replicas ∧
      z.2.pool.Extends q ∧ q.Evolves r.2.2.pool := by
  have hnot : z.1.find? p.id ≠ some e := by
    rw [hnone]
    exact (Option.some_ne_none e).symm
  cases h with
  | unknown _ => exact absurd hfind hnot
  | refused _ _ _ => exact absurd hfind hnot
  | found _ _ _ _ => exact absurd hfind hnot
  | broken _ _ _ _ =>
    rw [find?_settled, if_pos rfl] at hfind
    rw [← Option.some.inj hfind] at hm
    cases hm
  | placed hslot _ _ ha hplacement hext hq hb =>
    rw [find?_settled, if_pos rfl] at hfind
    rw [← Option.some.inj hfind]
    exact ⟨_, _, _, _, hslot, ha, rfl, hb, hplacement, hext, hq⟩

variable [ParameterServer σ]

theorem Consistent.inPlace {x : Store σ × Host} (hx : Consistent x) {id : String} {e : Entry}
    {a : ArrayId} (hfind : x.1.find? id = some e) (hm : e.materialized = true)
    (hfamily : x.2.pool.Family a e.replicas) : InPlace x id e where
  length := hx.full hfind hm
  alone hnone := (hx.full hfind hm).trans (hx.single hnone)
  value := by
    rintro p device slot rfl hslot
    exact hx.answer hslot hfind hm
  nodup := hfamily.nodup
  apart hb hc hne := hfamily.apart hx.sound hb hc hne
  write hb hc hne hu hv t := (hfamily.apart hx.sound hb hc hne).contents?_set hu hv t

variable [Contained σ]

/-- Every entry is either materialized or failed.  A materialized one is in
place, and its arrays are seated as the call that placed them found it. -/
theorem replica_table {start x : Store σ × Host} {moves : List (Move σ)}
    (hstart : Begins start) (hrun : Run start moves x) {id : String} {e : Entry}
    (hfind : x.1.find? id = some e) :
    (e.materialized = true ∧ e.failed = false ∨ e.materialized = false ∧ e.failed = true) ∧
    (e.materialized = true →
      InPlace x id e ∧
      ∃ before p device later z slot a b, moves = before ++ .getValue p device :: later ∧
        Run start before z ∧ p.id = id ∧ z.1.find? id = none ∧ p.array = some a ∧
        z.1.registry.slotOf device = .ok slot ∧
        ((getValue p device).runFrom z).1 = .ok b ∧ e.replicas[slot]? = some b ∧
        Run ((getValue p device).runFrom z).2 later x ∧
        Seated z x device slot a e.replicas) := by
  obtain ⟨hbegin, hempty⟩ := hstart.consistent
  have hx := hrun.consistent hbegin
  have hsettled := hx.settled hfind
  constructor
  · rcases hfailed : e.failed
    · rw [hfailed] at hsettled
      exact Or.inl ⟨hsettled, rfl⟩
    · rw [hfailed] at hsettled
      exact Or.inr ⟨hsettled, rfl⟩
  · intro hm
    obtain ⟨before, p, device, later, z, hmoves, hbefore, hpossible, hlater, rfl, hnone,
      hentry, hregistry, hserver⟩ := hrun.origin hbegin hempty hfind
    have hz := hbefore.consistent hbegin
    have hasked := hz.asked hpossible device
    obtain ⟨slot, a, b, q, hslot, ha, hb, hreplica, hplacement, hext, hq⟩ :=
      hasked.placement hnone hentry hm
    have hhas : z.2.pool.Has a := hpossible a ha
    have hqx : q.Evolves x.2.pool := hq.trans (hlater.evolves (hasked.consistent hz))
    have hfamily := (hplacement.family hext hhas).evolves (hext.sound hz.sound) hqx
    exact ⟨hx.inPlace hfind hm hfamily, before, p, device, later, z, slot, a, b, hmoves,
      hbefore, rfl, hnone, ha, hslot, hb, hreplica, hlater,
      hplacement.seated hx hslot hhas hext hqx hregistry hserver⟩

theorem replica_table_trial :
    ∃ x : Store RecordingServer × Host,
      x.1.find? "weight" = some ⟨true, [⟨1⟩, ⟨0⟩], true, false⟩ ∧
        InPlace x "weight" ⟨true, [⟨1⟩, ⟨0⟩], true, false⟩ := by
  have hrun : Run (trialStart : Store RecordingServer × Host) _ _ :=
    .snoc (.getValue trialParameter .gpu)
      (.snoc (.setServer (some .new) [.cpu, .gpu]) .nil trivial) (by
        intro a ha
        rw [← Option.some.inj ha]
        decide)
  have hfind : (Move.after (Move.after trialStart (.setServer (some .new) [.cpu, .gpu]))
      (.getValue trialParameter .gpu) : Store RecordingServer × Host).1.find? "weight" =
        some ⟨true, [⟨1⟩, ⟨0⟩], true, false⟩ := by
    decide
  exact ⟨_, hfind, ((replica_table begins_trialStart hrun hfind).2 rfl).1⟩

end Store

end DataParallel

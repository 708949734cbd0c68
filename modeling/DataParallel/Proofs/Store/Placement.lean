import DataParallel.Proofs.Device.Registry
import DataParallel.Proofs.Pool.Copy
import DataParallel.Proofs.Server.Contained
import DataParallel.Store.Placement

/-!
# Placing replicas

What the slots of a parameter get: in the slot that was asked for the canonical
array, and in all others new tracked copies of it that share no buffer with it
or with each other.
-/

namespace DataParallel

open Step

namespace Store

variable {σ : Type} {s : Store σ} {h : Host}

theorem runFrom_slotOf (device : Device) :
    (slotOf device).runFrom (s, h) = (s.registry.slotOf device, s, h) := by
  rw [slotOf, runFrom_bind_of_ok (runFrom_get _)]
  rfl

/-! ## Copies -/

theorem runFrom_replicate (a : ArrayId) (device : Device) :
    (replicate a device).runFrom (s, h) =
      (((Pool.boundCopy a device s.manager).runFrom h.pool).1, s,
        { h with pool := ((Pool.boundCopy a device s.manager).runFrom h.pool).2 }) := by
  rw [replicate, runFrom_bind_of_ok (runFrom_get _)]
  rfl

/-- The arrays that were spread over the slots from `first` on: the canonical
array in its own slot, and new copies of it on the other devices. -/
structure Spread (p q : Pool) (a : ArrayId) (slot first : Nat) (devices : List Device)
    (arrays : List ArrayId) : Prop where
  length : arrays.length = devices.length
  canonical : ∀ {k c}, arrays[k]? = some c → first + k = slot → c = a
  copy : ∀ {k c}, arrays[k]? = some c → first + k ≠ slot →
    ∃ d t, devices[k]? = some d ∧ p.items? a = some t ∧ Pool.IsCopy p q d t c
  nodup : p.Has a → arrays.Nodup

theorem Spread.nil {p : Pool} {a : ArrayId} {slot first : Nat} :
    Spread p p a slot first [] [] where
  length := rfl
  canonical hc := by cases hc
  copy hc := by cases hc
  nodup _ := List.nodup_nil

/-- The canonical array takes the first of the slots. -/
theorem Spread.cons_canonical {p q : Pool} {a : ArrayId} {slot : Nat} {device : Device}
    {devices : List Device} {arrays : List ArrayId}
    (hrest : Spread p q a slot (slot + 1) devices arrays) :
    Spread p q a slot slot (device :: devices) (a :: arrays) where
  length := by simp [hrest.length]
  canonical := by
    intro k c hc hk
    have hzero : k = 0 := by omega
    subst hzero
    exact (Option.some.inj hc).symm
  copy := by
    intro k c hc hk
    rcases k with _ | k
    · exact absurd rfl hk
    · exact hrest.copy hc (by omega)
  nodup := by
    intro ha
    refine List.nodup_cons.mpr ⟨fun hmem => ?_, hrest.nodup ha⟩
    obtain ⟨k, hk⟩ := List.mem_iff_getElem?.mp hmem
    obtain ⟨d, t, -, -, hcopy⟩ := hrest.copy hk (by omega)
    exact hcopy.fresh ha

/-- A copy takes the first of the slots. -/
theorem Spread.cons_copy {p q r : Pool} {a c : ArrayId} {t : Contents} {slot first : Nat}
    {device : Device} {devices : List Device} {arrays : List ArrayId}
    (hp : p.Sound) (hne : first ≠ slot) (hpq : p.Extends q) (hqr : q.Extends r)
    (ht : p.items? a = some t) (hc : Pool.IsCopy p q device t c)
    (hrest : Spread q r a slot (first + 1) devices arrays) :
    Spread p r a slot first (device :: devices) (c :: arrays) where
  length := by simp [hrest.length]
  canonical := by
    intro k b hb hk
    rcases k with _ | k
    · exact absurd hk hne
    · exact hrest.canonical hb (by omega)
  copy := by
    intro k b hb hk
    rcases k with _ | k
    · rw [← Option.some.inj hb]
      exact ⟨device, t, rfl, ht, hc.extends hqr (hpq.sound hp)⟩
    · obtain ⟨d, u, hd, hu, hcopy⟩ := hrest.copy hb (by omega)
      rw [hpq.items? hp (Pool.has_of_items? ht)] at hu
      exact ⟨d, u, hd, hu, hcopy.of_extends hpq⟩
  nodup := by
    intro ha
    refine List.nodup_cons.mpr ⟨fun hmem => ?_, hrest.nodup (hpq.has ha)⟩
    obtain ⟨k, hk⟩ := List.mem_iff_getElem?.mp hmem
    by_cases hslot : first + 1 + k = slot
    · rw [hrest.canonical hk hslot] at hc
      exact hc.fresh ha
    · obtain ⟨d, u, -, -, hcopy⟩ := hrest.copy hk hslot
      exact hcopy.fresh hc.has

theorem runFrom_spread_cons (a : ArrayId) (slot first : Nat) (device : Device)
    (rest : List Device) {x y : Store σ × Host} {c : ArrayId}
    (hc : (if first = slot then pure a else replicate a device).runFrom x = (.ok c, y)) :
    (spread a slot first (device :: rest)).runFrom x =
      (((spread a slot (first + 1) rest).runFrom y).1.map (c :: ·),
        ((spread a slot (first + 1) rest).runFrom y).2) := by
  have hrest : (do return c :: (← spread a slot (first + 1) rest)).runFrom y =
      (((spread a slot (first + 1) rest).runFrom y).1.map (c :: ·),
        ((spread a slot (first + 1) rest).runFrom y).2) := by
    rw [runFrom_bind]
    rcases (spread a slot (first + 1) rest).runFrom y with ⟨_ | _, _⟩ <;> rfl
  rw [spread]
  by_cases hslot : first = slot
  · rw [if_pos hslot] at hc ⊢
    rw [runFrom_bind_of_ok hc]
    exact hrest
  · rw [if_neg hslot] at hc ⊢
    rw [runFrom_bind_of_ok hc]
    exact hrest

/-- Spreading extends the pool and changes nothing else; if it succeeds, the
arrays are the canonical one and copies of it. -/
theorem runFrom_spread (a : ArrayId) (slot first : Nat) (devices : List Device) :
    ∃ q, h.pool.Extends q ∧
      ((spread a slot first devices).runFrom (s, h)).2 = (s, { h with pool := q }) ∧
      ∀ arrays, h.pool.Sound →
        ((spread a slot first devices).runFrom (s, h)).1 = .ok arrays →
        Spread h.pool q a slot first devices arrays := by
  induction devices generalizing first h with
  | nil =>
    refine ⟨h.pool, Pool.Extends.refl _, rfl, fun arrays _ hok => ?_⟩
    rw [← Except.ok.inj hok]
    exact Spread.nil
  | cons device rest ih =>
    by_cases hslot : first = slot
    · subst hslot
      have hcons := runFrom_spread_cons a first first device rest
        (x := (s, h)) (y := (s, h)) (c := a) (by rw [if_pos rfl]; rfl)
      obtain ⟨q, hext, hstate, hspread⟩ := ih (h := h) (first + 1)
      refine ⟨q, hext, by rw [hcons]; exact hstate, fun arrays hp hok => ?_⟩
      rw [hcons] at hok
      rcases hrest : ((spread a first (first + 1) rest).runFrom (s, h)).1 with _ | others
      · rw [hrest] at hok
        cases hok
      · rw [hrest] at hok
        rw [← Except.ok.inj hok]
        exact (hspread others hp hrest).cons_canonical
    · have hcopied := Pool.extends_boundCopy h.pool a device s.manager
      have hcopy := runFrom_replicate (s := s) (h := h) a device
      rcases hc : ((Pool.boundCopy a device s.manager).runFrom h.pool).1 with fault | c
      · rw [hc] at hcopy
        have herror : (spread a slot first (device :: rest)).runFrom (s, h) =
            (.error fault, s, { h with
              pool := ((Pool.boundCopy a device s.manager).runFrom h.pool).2 }) := by
          rw [spread, if_neg hslot, runFrom_bind_of_error hcopy]
        refine ⟨_, hcopied, by rw [herror], fun arrays _ hok => ?_⟩
        rw [herror] at hok
        cases hok
      · rw [hc] at hcopy
        have hcons := runFrom_spread_cons a slot first device rest (x := (s, h))
          (by rw [if_neg hslot]; exact hcopy)
        obtain ⟨q, hext, hstate, hspread⟩ := ih (h := { h with
          pool := ((Pool.boundCopy a device s.manager).runFrom h.pool).2 }) (first + 1)
        refine ⟨q, hcopied.trans hext, by rw [hcons]; exact hstate, fun arrays hp hok => ?_⟩
        rw [hcons] at hok
        obtain ⟨t, ht, hnew⟩ := Pool.isCopy_of_boundCopy hp hc
        rcases hrest : ((spread a slot (first + 1) rest).runFrom (s,
            { h with pool := ((Pool.boundCopy a device s.manager).runFrom h.pool).2 })).1
          with _ | others
        · rw [hrest] at hok
          cases hok
        · rw [hrest] at hok
          rw [← Except.ok.inj hok]
          exact Spread.cons_copy hp hslot hcopied hext ht hnew
            (hspread others (hcopied.sound hp) hrest)

/-- With an open array and an open manager every slot gets its array. -/
theorem exists_spread {a : ArrayId} {t : Contents} (hp : h.pool.Sound)
    (ht : h.pool.items? a = some t) (hm : (h.pool.manager s.manager).isOpen)
    (slot first : Nat) (devices : List Device) :
    ∃ arrays, ((spread a slot first devices).runFrom (s, h)).1 = .ok arrays := by
  induction devices generalizing first h with
  | nil => exact ⟨[], rfl⟩
  | cons device rest ih =>
    by_cases hslot : first = slot
    · have hcons := runFrom_spread_cons a slot first device rest
        (x := (s, h)) (y := (s, h)) (c := a) (by rw [if_pos hslot]; rfl)
      obtain ⟨others, hothers⟩ := ih hp ht hm (first + 1)
      exact ⟨a :: others, by rw [hcons, hothers]; rfl⟩
    · have hcopy := runFrom_replicate (s := s) (h := h) a device
      have hrun := Pool.boundCopy_open device ht hm
      have hext := Pool.extends_boundCopy h.pool a device s.manager
      rw [hrun] at hcopy hext
      have hcons := runFrom_spread_cons a slot first device rest (x := (s, h))
        (by rw [if_neg hslot]; exact hcopy)
      obtain ⟨others, hothers⟩ := ih (h := { h with
          pool := (h.pool.copied device t).bound h.pool.nextArray s.manager })
        (hext.sound hp) ((hext.items? hp (Pool.has_of_items? ht)).trans ht)
        ((Pool.isOpen_bound_copied s.manager).trans hm) (first + 1)
      exact ⟨h.pool.nextArray :: others, by rw [hcons, hothers]; rfl⟩

/-! ## Entries -/

/-- The store with arrays added to the replicas of a parameter, and with the
server as it then is. -/
def filled (s : Store σ) (id : String) (arrays : List ArrayId) (server : Option σ) : Store σ :=
  { s.updateEntry id fun e => { e with replicas := e.replicas ++ arrays } with server := server }

theorem find?_updateEntry (s : Store σ) (id : String) (f : Entry → Entry) (name : String) :
    (s.updateEntry id f).find? name = if name = id then (s.find? name).map f else s.find? name :=
  Keyed.lookup_change _ _ _ _

theorem find?_filled (s : Store σ) (id : String) (arrays : List ArrayId) (server : Option σ)
    (name : String) :
    (s.filled id arrays server).find? name =
      if name = id then
        (s.find? name).map fun e => { e with replicas := e.replicas ++ arrays }
      else s.find? name :=
  find?_updateEntry s id (fun e => { e with replicas := e.replicas ++ arrays }) name

theorem filled_nil (s : Store σ) (id : String) : s.filled id [] s.server = s := by
  have hsame : Keyed.change id (fun e : Entry => { e with replicas := e.replicas ++ [] })
      s.entries = s.entries := by
    simp [Keyed.change]
  rw [filled, updateEntry, hsame]

theorem filled_filled (s : Store σ) (id : String) (xs ys : List ArrayId)
    (server server' : Option σ) :
    (s.filled id xs server).filled id ys server' = s.filled id (xs ++ ys) server' := by
  simp only [filled, updateEntry, Keyed.change_change, Function.comp_def, List.append_assoc]

/-- The store after the one entry of a parameter was made, with the arrays that
it has got and whether it is usable. -/
def settled (s : Store σ) (p : Parameter) (arrays : List ArrayId) (usable : Bool)
    (server : Option σ) : Store σ :=
  { s with
    entries := Keyed.put p.id ⟨p.requiresGradient.truthy, arrays, usable, !usable⟩ s.entries
    server := server }

theorem find?_settled (s : Store σ) (p : Parameter) (arrays : List ArrayId) (usable : Bool)
    (server : Option σ) (id : String) :
    (s.settled p arrays usable server).find? id =
      if id = p.id then some ⟨p.requiresGradient.truthy, arrays, usable, !usable⟩
      else s.find? id :=
  Keyed.lookup_put _ _ _ _

/-- The store with a new entry for a parameter. -/
def opened (s : Store σ) (p : Parameter) : Store σ :=
  { s with entries := Keyed.put p.id ⟨p.requiresGradient.truthy, [], false, false⟩ s.entries }

section Opened

variable {p : Parameter} (hnone : s.find? p.id = none)

include hnone

theorem runFrom_ensureEntry_new :
    (ensureEntry p).runFrom (s, h) = (.ok (), s.opened p, h) := by
  rw [ensureEntry, runFrom_bind_of_ok (runFrom_get _)]
  simp [contains, hnone, opened]

theorem materialized_filled_opened (arrays : List ArrayId) (server : Option σ) :
    (((s.opened p).filled p.id arrays server).updateEntry p.id
      fun e => { e with materialized := true }) = s.settled p arrays true server := by
  simp only [filled, opened, updateEntry, settled, Keyed.change_put_of_lookup_eq_none hnone,
    List.nil_append, Bool.not_true]

theorem failed_filled_opened (arrays : List ArrayId) (server : Option σ) :
    (((s.opened p).filled p.id arrays server).updateEntry p.id
      fun e => { e with failed := true }) = s.settled p arrays false server := by
  simp only [filled, opened, updateEntry, settled, Keyed.change_put_of_lookup_eq_none hnone,
    List.nil_append, Bool.not_false]

end Opened

/-! ## Placements -/

/-- The arrays that a parameter was placed in, in slot order: the canonical
array in the slot of the device that was asked for, unless a store without a
server had to copy it, and new copies in all other slots. -/
structure Placement (s : Store σ) (p q : Pool) (device : Device) (slot : Nat) (a : ArrayId)
    (arrays : List ArrayId) : Prop where
  length : arrays.length = s.registry.devices.length
  nodup : arrays.Nodup
  canonical : ∀ i, arrays[i]? = some a ↔
    i = slot ∧ (s.server.isSome ∨ (s.copy.truthy = false ∧ (p.array a).device = device))
  copy : ∀ {i : Nat} {c}, arrays[i]? = some c → c ≠ a →
    ∃ d t, s.registry.devices[i]? = some d ∧ p.items? a = some t ∧ Pool.IsCopy p q d t c

theorem Spread.placement {p q : Pool} {a : ArrayId} {slot : Nat} {device : Device}
    {arrays : List ArrayId} (hspread : Spread p q a slot 0 s.registry.devices arrays)
    (ha : p.Has a) (hslot : slot < s.registry.devices.length) (hserver : s.server.isSome) :
    Placement s p q device slot a arrays where
  length := hspread.length
  nodup := hspread.nodup ha
  canonical i := by
    constructor
    · intro hi
      by_cases heq : i = slot
      · exact ⟨heq, Or.inl hserver⟩
      · obtain ⟨d, t, -, -, hcopy⟩ := hspread.copy hi (by omega)
        exact absurd ha hcopy.fresh
    · rintro ⟨rfl, -⟩
      have hlt : i < arrays.length := hspread.length ▸ hslot
      have hget := List.getElem?_eq_getElem hlt
      rw [hget, hspread.canonical hget (by omega)]
  copy hc hne := by
    refine hspread.copy hc fun hslot => hne (hspread.canonical hc hslot)

/-- An open array is placed in all slots if the manager is open. -/
theorem exists_placement {device : Device} {slot : Nat} {a : ArrayId} {t : Contents}
    (hslot : s.registry.slotOf device = .ok slot) (hserver : s.server.isSome)
    (p : Parameter) (hp : h.pool.Sound) (ht : h.pool.items? a = some t)
    (hopen : (h.pool.manager s.manager).isOpen) :
    ∃ all q, (spread a slot 0 s.registry.devices).runFrom (s.opened p, h) =
        (.ok all, s.opened p, { h with pool := q }) ∧
      h.pool.Extends q ∧ Placement s h.pool q device slot a all := by
  obtain ⟨all, hall⟩ := exists_spread (s := s.opened p) hp ht hopen slot 0 s.registry.devices
  obtain ⟨q, hext, hstate, hspread⟩ :=
    runFrom_spread (s := s.opened p) (h := h) a slot 0 s.registry.devices
  have hlt : slot < s.registry.devices.length :=
    (List.getElem?_eq_some_iff.mp (Registry.slotOf_eq_ok.mp hslot)).1
  exact ⟨all, q, Prod.ext hall hstate, hext,
    (hspread all hp hall).placement (Pool.has_of_items? ht) hlt hserver⟩

/-! ## Stores without a server -/

theorem runFrom_addReplica (id : String) (a : ArrayId) (server : Option σ) :
    (addReplica id a).runFrom ({ s with server := server }, h) =
      (.ok (), s.filled id [a] server, h) := rfl

theorem runFrom_note (severity : Severity) (message : String) :
    ∃ k, (note severity message).runFrom (s, h) = (.ok (), s, k) ∧ k.pool = h.pool :=
  ⟨_, rfl, rfl⟩

/-- Without a server the one array is the canonical one or a copy of it. -/
theorem runFrom_placeAlone (hserver : s.server = none) (p : Parameter) (a : ArrayId)
    (device : Device) :
    ∃ arrays k, ((placeAlone p a device).runFrom (s, h)).2 = (s.filled p.id arrays none, k) ∧
      h.pool.Extends k.pool ∧
      (((placeAlone p a device).runFrom (s, h)).1 = .ok () → h.pool.Sound →
        ∃ b, arrays = [b] ∧
          if s.copy.truthy = false ∧ (h.pool.array a).device = device then b = a
          else ∃ t, h.pool.items? a = some t ∧ Pool.IsCopy h.pool k.pool device t b) := by
  have hget : (get : Step (Store σ × Host) _).runFrom (s, h) = (.ok (s, h), s, h) := rfl
  have hplace : ∀ (b : ArrayId) (k : Host), ∃ k', (do
      addReplica p.id b
      note .debug ("Placed " ++ p.name.display ++ "[" ++ p.id ++ "] on " ++ device.text) :
        Step (Store σ × Host) Unit).runFrom (s, k) = (.ok (), s.filled p.id [b] none, k') ∧
          k'.pool = k.pool := by
    intro b k
    obtain ⟨k', hnote, hpool⟩ := runFrom_note (s := s.filled p.id [b] s.server) (h := k) .debug
      ("Placed " ++ p.name.display ++ "[" ++ p.id ++ "] on " ++ device.text)
    refine ⟨k', ?_, hpool⟩
    rw [← hserver, runFrom_bind_of_ok (runFrom_addReplica p.id b s.server), hnote]
  rw [placeAlone, runFrom_bind_of_ok hget]
  dsimp only
  by_cases hkeep : s.copy.truthy = false ∧ (h.pool.array a).device = device
  · obtain ⟨k, hrun, hpool⟩ := hplace a h
    rw [if_neg (by simp [hkeep]), runFrom_bind_of_ok (runFrom_pure a _), hrun]
    refine ⟨[a], k, rfl, by rw [hpool]; exact Pool.Extends.refl _, fun _ _ => ⟨a, rfl, ?_⟩⟩
    rw [if_pos hkeep]
  · have hcond : (s.copy.truthy || decide ((h.pool.array a).device ≠ device)) = true := by
      rcases hcopy : s.copy.truthy
      · simpa [hcopy] using hkeep
      · rfl
    have hext := Pool.extends_boundCopy h.pool a device s.manager
    have hcopy := runFrom_replicate (s := s) (h := h) a device
    rw [if_pos hcond]
    rcases hc : ((Pool.boundCopy a device s.manager).runFrom h.pool).1 with fault | c
    · rw [hc] at hcopy
      rw [runFrom_bind_of_error hcopy]
      refine ⟨[], { h with pool := ((Pool.boundCopy a device s.manager).runFrom h.pool).2 },
        ?_, hext, fun hok => by cases hok⟩
      rw [← hserver, filled_nil]
    · rw [hc] at hcopy
      obtain ⟨k, hrun, hpool⟩ := hplace c { h with
        pool := ((Pool.boundCopy a device s.manager).runFrom h.pool).2 }
      rw [runFrom_bind_of_ok hcopy, hrun]
      refine ⟨[c], k, rfl, by rw [hpool]; exact hext, fun _ hp => ⟨c, rfl, ?_⟩⟩
      rw [if_neg hkeep, hpool]
      exact Pool.isCopy_of_boundCopy hp hc

theorem Placement.alone {p q : Pool} {a b : ArrayId} {device : Device}
    (hserver : s.server = none) (hdevices : s.registry.devices = [device]) (ha : p.Has a)
    (hb : if s.copy.truthy = false ∧ (p.array a).device = device then b = a
      else ∃ t, p.items? a = some t ∧ Pool.IsCopy p q device t b) :
    Placement s p q device 0 a [b] := by
  have hcopy : b ≠ a → ∃ t, p.items? a = some t ∧ Pool.IsCopy p q device t b := by
    intro hne
    split at hb
    · exact absurd hb hne
    · exact hb
  have hcanonical : b = a ↔ s.copy.truthy = false ∧ (p.array a).device = device := by
    split at hb
    · next hkeep => exact ⟨fun _ => hkeep, fun _ => hb⟩
    · next hkeep =>
      refine ⟨fun heq => ?_, fun h => absurd h hkeep⟩
      obtain ⟨t, -, hcopied⟩ := hb
      rw [heq] at hcopied
      exact absurd ha hcopied.fresh
  constructor
  · rw [hdevices]
    rfl
  · exact List.pairwise_singleton _ b
  · intro i
    rcases i with _ | i
    · simp [hserver, hcanonical]
    · simp
  · intro i c hc hne
    rcases i with _ | i
    · rw [← Option.some.inj hc] at hne ⊢
      obtain ⟨t, ht, hcopied⟩ := hcopy hne
      exact ⟨device, t, by rw [hdevices]; rfl, ht, hcopied⟩
    · cases hc

end Store

end DataParallel

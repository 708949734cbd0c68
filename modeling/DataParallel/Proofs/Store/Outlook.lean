import DataParallel.Proofs.Server.Scripted
import DataParallel.Proofs.Store.PlacedOnce

/-!
# What a placement will come to

Over a scripted server the result of a placement is settled before it begins: by the array of the
parameter, the manager of the store and the script.  It does not depend on the device that is asked
for, and nothing that happens to other parameters changes it.
-/

namespace DataParallel

open Step

namespace Store

variable {σ : Type}

/-! ## Copies that cannot be made -/

/-- What keeps an array from being copied. -/
def copyFault (p : Pool) (a : ArrayId) (m : ManagerId) : Option Fault :=
  match p.items? a with
  | none => some .arrayClosed
  | some _ => if (p.manager m).isOpen then none else some .managerClosed

theorem boundCopy_of_fault {p : Pool} {a : ArrayId} {m : ManagerId} {fault : Fault}
    (h : copyFault p a m = some fault) (device : Device) :
    ((Pool.boundCopy a device m).runFrom p).1 = .error fault := by
  rw [Pool.runFrom_boundCopy]
  rw [copyFault] at h
  rcases ht : p.items? a with _ | t
  · rw [ht] at h
    rw [← Option.some.inj h]
  · rw [ht] at h
    dsimp only at h ⊢
    split at h
    · cases h
    · next hclosed =>
      rw [if_neg hclosed, ← Option.some.inj h]

/-- Slots other than that of the canonical array need copies. -/
theorem spread_of_fault {s : Store σ} {h : Host} {a : ArrayId} {fault : Fault}
    (hfault : copyFault h.pool a s.manager = some fault) (slot : Nat) {first : Nat}
    {devices : List Device} (hother : ∃ i < devices.length, first + i ≠ slot) :
    ((spread a slot first devices).runFrom (s, h)).1 = .error fault := by
  induction devices generalizing first with
  | nil =>
    obtain ⟨i, hi, -⟩ := hother
    exact absurd hi (Nat.not_lt_zero i)
  | cons device rest ih =>
    by_cases hslot : first = slot
    · have hcons := runFrom_spread_cons a slot first device rest
        (x := (s, h)) (y := (s, h)) (c := a) (by rw [if_pos hslot]; rfl)
      have hrest : ∃ i < rest.length, first + 1 + i ≠ slot := by
        obtain ⟨i, hi, hne⟩ := hother
        rw [List.length_cons] at hi
        exact ⟨i - 1, by omega, by omega⟩
      rw [hcons, ih hrest]
      rfl
    · have hcopy := runFrom_replicate (s := s) (h := h) a device
      rw [boundCopy_of_fault hfault device] at hcopy
      rw [spread, if_neg hslot, runFrom_bind_of_error hcopy]

/-- What keeps the arrays for all slots from being made; a single slot needs no copy. -/
def spreadFault (s : Store σ) (p : Pool) (a : ArrayId) : Option Fault :=
  if s.registry.devices.length = 1 then none else copyFault p a s.manager

section Spread

variable {s : Store σ} {h : Host} {a : ArrayId} {slot : Nat}

theorem spread_of_spreadFault {fault : Fault} (hfault : spreadFault s h.pool a = some fault)
    (hslot : slot < s.registry.devices.length) :
    ((spread a slot 0 s.registry.devices).runFrom (s, h)).1 = .error fault := by
  rw [spreadFault] at hfault
  split at hfault
  · cases hfault
  · have hother : ∃ i < s.registry.devices.length, 0 + i ≠ slot := by
      by_cases hzero : slot = 0
      · exact ⟨1, by omega, by omega⟩
      · exact ⟨0, by omega, by omega⟩
    exact spread_of_fault hfault slot hother

theorem exists_spread_of_spreadFault (hp : h.pool.Sound) (hfault : spreadFault s h.pool a = none)
    (hslot : slot < s.registry.devices.length) :
    ∃ all, ((spread a slot 0 s.registry.devices).runFrom (s, h)).1 = .ok all := by
  rw [spreadFault] at hfault
  split at hfault
  · next hsingle =>
    obtain ⟨device, hdevice⟩ := List.length_eq_one_iff.mp hsingle
    obtain rfl : slot = 0 := by omega
    exact ⟨[a], by rw [hdevice]; rfl⟩
  · rw [copyFault] at hfault
    split at hfault
    · cases hfault
    · next t ht =>
      split at hfault
      · next hopen => exact exists_spread hp ht hopen slot 0 s.registry.devices
      · cases hfault

end Spread

/-! ## What a placement leaves alone -/

/-- A placement stays one while the pool is extended. -/
theorem Placement.extends {s : Store σ} {p q r : Pool} {device : Device} {slot : Nat}
    {a : ArrayId} {arrays : List ArrayId} (h : Placement s p q device slot a arrays)
    (hqr : q.Extends r) (hq : q.Sound) : Placement s p r device slot a arrays where
  length := h.length
  nodup := h.nodup
  canonical := h.canonical
  copy := by
    intro i c hc hne
    obtain ⟨d, t, hd, ht, hcopy⟩ := h.copy hc hne
    exact ⟨d, t, hd, ht, hcopy.extends hqr hq⟩

/-- A placement has an array for every registered device. -/
theorem Placement.exists_array {s : Store σ} {p q : Pool} {first : Device} {start : Nat}
    {a : ArrayId} {arrays : List ArrayId} (h : Placement s p q first start a arrays)
    {device : Device} {slot : Nat} (hslot : s.registry.slotOf device = .ok slot) :
    ∃ b, arrays[slot]? = some b := by
  have hlt : slot < arrays.length := by
    rw [h.length]
    exact (List.getElem?_eq_some_iff.mp (Registry.slotOf_eq_ok.mp hslot)).1
  exact ⟨_, List.getElem?_eq_getElem hlt⟩

/-- The same managers are open. -/
def KeepsOpen (x y : Store σ × Host) : Prop :=
  ∀ m, (y.2.pool.manager m).isOpen = (x.2.pool.manager m).isOpen

instance : IsPreorder (Store σ × Host) KeepsOpen where
  refl _ _ := rfl
  trans _ _ _ hxy hyz m := (hyz m).trans (hxy m)

theorem along_replicate_open (a : ArrayId) (device : Device) :
    Along (KeepsOpen (σ := σ)) (replicate a device) := by
  rintro ⟨s, h⟩ m
  rw [runFrom_replicate, Pool.runFrom_boundCopy]
  rcases h.pool.items? a with _ | t
  · rfl
  · dsimp only
    split
    · exact Pool.isOpen_bound_copied m
    · rfl

theorem along_spread_open (a : ArrayId) (slot first : Nat) (devices : List Device) :
    Along (KeepsOpen (σ := σ)) (spread a slot first devices) := by
  induction devices generalizing first with
  | nil => exact along_pure _
  | cons device rest ih =>
    rw [spread]
    split
    · exact along_bind (along_pure _) fun c => along_bind (ih (first + 1)) fun _ => along_pure _
    · exact along_bind (along_replicate_open a device) fun c =>
        along_bind (ih (first + 1)) fun _ => along_pure _

/-! ## Placements -/

/-- The arrays that a placement gives to the entry, the calls that it makes and its result. -/
inductive Placing (p : Parameter) (device : Device) (slot : Nat) (s : Store (Watched σ))
    (before after : Pool) :
    List ArrayId → List (Call × Except Fault Unit) → Except Fault Unit → Prop where
  /-- The arrays cannot be made. -/
  | unasked {fault : Fault} : Placing p device slot s before after [] [] (.error fault)
  /-- The arrays are registered one after the other. -/
  | asked {a : ArrayId} {all arrays : List ArrayId} {calls : List (Call × Except Fault Unit)}
      {r : Except Fault Unit} :
    p.array = some a → Placement s before after device slot a all →
    Registering p.id all all arrays calls r →
    Placing p device slot s before after arrays calls r

theorem Placing.own {p : Parameter} {device : Device} {slot : Nat} {s : Store (Watched σ)}
    {before after : Pool} {arrays : List ArrayId} {calls : List (Call × Except Fault Unit)}
    {r : Except Fault Unit} (h : Placing p device slot s before after arrays calls r) :
    ∀ c ∈ calls, c.1.parameter = p.id := by
  intro c hc
  cases h with
  | unasked => cases hc
  | asked _ _ hcalls =>
    cases hcalls with
    | all =>
      rw [List.eq_of_mem_replicate hc]
      rfl
    | upTo _ =>
      rcases List.mem_append.mp hc with hc | hc
      · rw [List.eq_of_mem_replicate hc]
        rfl
      · rw [List.mem_singleton.mp hc]
        rfl

theorem Placing.length {p : Parameter} {device : Device} {slot : Nat} {s : Store (Watched σ)}
    {before after : Pool} {arrays : List ArrayId} {calls : List (Call × Except Fault Unit)}
    (h : Placing p device slot s before after arrays calls (.ok ())) :
    arrays.length = s.registry.devices.length := by
  cases h with
  | asked _ hplacement hcalls =>
    cases hcalls with
    | all => exact hplacement.length

/-- A placement stays one while the pool is extended. -/
theorem Placing.extends {p : Parameter} {device : Device} {slot : Nat} {s : Store (Watched σ)}
    {before after later : Pool} {arrays : List ArrayId} {calls : List (Call × Except Fault Unit)}
    {r : Except Fault Unit} (h : Placing p device slot s before after arrays calls r)
    (hext : after.Extends later) (hafter : after.Sound) :
    Placing p device slot s before later arrays calls r := by
  cases h with
  | unasked => exact .unasked
  | asked ha hplacement hcalls => exact .asked ha (hplacement.extends hext hafter) hcalls

/-! ## The outlook -/

variable [ParameterServer σ] [Scripted σ]

/-- What a placement of a parameter will come to. -/
def outlook (w : Watched σ) (x : Store (Watched σ) × Host) (p : Parameter) : Except Fault Unit :=
  match p.array with
  | none => .error (.uninitialized p.name)
  | some a =>
    match spreadFault x.1 x.2.pool a with
    | some fault => .error fault
    | none => Scripted.outcome (Scripted.script w.server p.id) (Scripted.count w.server p.id)
        x.1.registry.devices.length

/-! ## Registering by a script -/

/-- Registering ends as the script says, with one call for each array up to the first refusal. -/
theorem register_scripted (id : String) (all todo : List ArrayId) {s : Store (Watched σ)}
    {h : Host} {w : Watched σ} (hw : s.server = some w) :
    ∃ arrays calls v k,
      (register id all todo).runFrom (s, h) =
        (Scripted.outcome (Scripted.script w.server id) (Scripted.count w.server id) todo.length,
          s.filled id arrays (some ⟨v, w.calls ++ calls⟩), k) ∧
      Registering id all todo arrays calls
        (Scripted.outcome (Scripted.script w.server id) (Scripted.count w.server id) todo.length) ∧
      Scripted.Inits id calls.length w.server h.pool v k.pool := by
  induction todo generalizing s h w with
  | nil =>
    refine ⟨[], [], w.server, h, ?_, .all, .none id (Pool.Extends.refl _) fun _ => rfl⟩
    rw [List.append_nil, ← hw, filled_nil]
    rfl
  | cons a rest ih =>
    have hinits := Scripted.inits_init id all w.server h
    have hresult := Scripted.result_init id all w.server h
    have hcall := runFrom_onServer (h := h) hw
      (ParameterServer.init id all : Step (Watched σ × Host) Unit)
    rcases hinit : (ParameterServer.init id all : Step (σ × Host) Unit).runFrom (w.server, h)
      with ⟨r, v, k⟩
    have hwatched : (ParameterServer.init id all : Step (Watched σ × Host) Unit).runFrom (w, h) =
        (r, ⟨v, w.calls ++ [(⟨.init, id, all, none⟩, r)]⟩, k) := by
      show (Watched.call _ _).runFrom (w, h) = _
      rw [Watched.call, runFrom_make]
      dsimp only
      rw [hinit]
    rw [hinit] at hinits hresult
    rw [hwatched] at hcall
    dsimp only at hinits hresult hcall
    have houtcome : Scripted.outcome (Scripted.script w.server id) (Scripted.count w.server id)
        (a :: rest).length = r >>= fun _ => Scripted.outcome (Scripted.script w.server id)
          (Scripted.count w.server id + 1) rest.length := by
      rw [hresult]
      rfl
    rw [houtcome]
    rcases r with fault | ⟨⟩
    · refine ⟨[], [refused id all fault], v, k, ?_, .upTo (k := 0) (Nat.succ_pos _), hinits⟩
      rw [register, runFrom_bind_of_error hcall]
      exact congrArg (fun t => (Except.error fault, t, k))
        (filled_nil { s with server := _ } id).symm
    · obtain ⟨arrays, calls, v', k', hrun, hcalls, hrest⟩ := ih (h := k)
        (s := s.filled id [a] (some ⟨v, w.calls ++ [registered id all]⟩)) rfl
      have hscript : Scripted.script v = Scripted.script w.server := hinits.script
      have hcount : Scripted.count v id = Scripted.count w.server id + 1 := by
        rw [hinits.count, if_pos rfl]
      rw [hscript, hcount] at hrun hcalls
      refine ⟨a :: arrays, registered id all :: calls, v', k', ?_, hcalls.cons a, ?_⟩
      · rw [register, runFrom_bind_of_ok hcall, runFrom_bind_of_ok (runFrom_addReplica id a _)]
        rw [filled_filled, List.append_assoc] at hrun
        exact hrun
      · rw [List.length_cons, Nat.add_comm]
        exact hinits.trans hrest

/-! ## Placing by the outlook -/

/-- What work for one parameter leaves alone: the other entries, the devices, all arrays that were
there, and the script; and what the server has got are the given calls for the parameter. -/
structure Worked (id : String) (calls : List (Call × Except Fault Unit))
    (x y : Store (Watched σ) × Host) : Prop where
  registry : y.1.registry = x.1.registry
  manager : y.1.manager = x.1.manager
  others : ∀ name, name ≠ id → y.1.find? name = x.1.find? name
  served : ∃ v w : Watched σ, x.1.server = some v ∧ y.1.server = some w ∧
    w.calls = v.calls ++ calls ∧
    Scripted.Inits id calls.length v.server x.2.pool w.server y.2.pool
  own : ∀ c ∈ calls, c.1.parameter = id

theorem Worked.refl (id : String) {x : Store (Watched σ) × Host} (hx : x.1.server.isSome) :
    Worked id [] x x where
  registry := rfl
  manager := rfl
  others _ _ := rfl
  served := by
    obtain ⟨w, hw⟩ := Option.isSome_iff_exists.mp hx
    exact ⟨w, w, hw, hw, (List.append_nil _).symm, .none id (Pool.Extends.refl _) fun _ => rfl⟩
  own _ hc := by cases hc

theorem Worked.pool {id : String} {calls : List (Call × Except Fault Unit)}
    {x y : Store (Watched σ) × Host} (h : Worked id calls x y) : x.2.pool.Extends y.2.pool := by
  obtain ⟨v, w, -, -, -, hinits⟩ := h.served
  exact hinits.pool

section Placing

variable {s : Store (Watched σ)} {h : Host} {w : Watched σ} {p : Parameter} {device : Device}
  {slot : Nat} (hw : s.server = some w) (hp : h.pool.Sound)
  (harray : ∀ a ∈ p.array, h.pool.Has a) (hslot : s.registry.slotOf device = .ok slot)

include hw hp harray hslot

/-- A placement ends as its outlook says, and all that it changes are the entry and the server. -/
theorem runFrom_materialize_scripted :
    ∃ arrays calls v k,
      (materialize p device slot).runFrom (s, h) =
        (outlook w (s, h) p, s.filled p.id arrays (some ⟨v, w.calls ++ calls⟩), k) ∧
      Placing p device slot s h.pool k.pool arrays calls (outlook w (s, h) p) ∧
      Scripted.Inits p.id calls.length w.server h.pool v k.pool := by
  have hsome : s.server.isSome := by
    rw [hw]
    rfl
  have hsame : ∀ k : Host, (s, k) = (s.filled p.id [] (some ⟨w.server, w.calls ++ []⟩), k) := by
    intro k
    rw [List.append_nil, ← hw, filled_nil]
  have hlt : slot < s.registry.devices.length :=
    (List.getElem?_eq_some_iff.mp (Registry.slotOf_eq_ok.mp hslot)).1
  rcases ha : p.array with _ | a
  · refine ⟨[], [], w.server, h, ?_, ?_, .none _ (Pool.Extends.refl _) fun _ => rfl⟩
    · rw [materialize_unset ha, outlook, ha, ← hsame]
    · rw [outlook, ha]
      exact .unasked
  have hhas : h.pool.Has a := harray a ha
  obtain ⟨q, hext, hstate, hspread⟩ :=
    runFrom_spread (s := s) (h := h) a slot 0 s.registry.devices
  have hopen := along_spread_open (σ := Watched σ) a slot 0 s.registry.devices (s, h)
  rcases hrun : (spread a slot 0 s.registry.devices).runFrom (s, h) with ⟨result, x⟩
  rw [hrun] at hstate hopen hspread
  obtain rfl : x = (s, { h with pool := q }) := hstate
  rcases hfault : spreadFault s h.pool a with _ | fault
  · obtain ⟨all, hall⟩ := exists_spread_of_spreadFault hp hfault hlt
    rw [hrun] at hall
    obtain rfl : result = .ok all := hall
    have hplacement : Placement s h.pool q device slot a all :=
      (hspread all hp rfl).placement hhas hlt hsome
    obtain ⟨arrays, calls, v, k, hregister, hcalls, hinits⟩ :=
      register_scripted p.id all all (h := { h with pool := q }) hw
    have houtlook : outlook w (s, h) p = Scripted.outcome (Scripted.script w.server p.id)
        (Scripted.count w.server p.id) all.length := by
      rw [outlook, ha, hplacement.length]
      dsimp only
      rw [hfault]
    have hasked : Placing p device slot s h.pool k.pool arrays calls (outlook w (s, h) p) := by
      rw [houtlook]
      exact .asked ha (hplacement.extends hinits.pool (hext.sound hp)) hcalls
    have hall : Scripted.Inits p.id calls.length w.server h.pool v k.pool := by
      rw [← Nat.zero_add calls.length]
      exact (Scripted.Inits.none (v := w.server) p.id hext hopen).trans hinits
    rw [houtlook] at hasked ⊢
    rcases hresult : Scripted.outcome (Scripted.script w.server p.id)
        (Scripted.count w.server p.id) all.length with fault | ⟨⟩
    · rw [hresult] at hregister hasked
      exact ⟨arrays, calls, v, k, materialize_of_register_error ha hsome hrun hregister, hasked,
        hall⟩
    · rw [hresult] at hregister hasked
      obtain ⟨l, hdone, hpool⟩ := materialize_of_register ha hsome hrun hregister
      rw [← hpool] at hasked hall
      exact ⟨arrays, calls, v, l, hdone, hasked, hall⟩
  · have herror := spread_of_spreadFault hfault hlt
    rw [hrun] at herror
    obtain rfl : result = .error fault := herror
    have houtlook : outlook w (s, h) p = .error fault := by
      rw [outlook, ha]
      dsimp only
      rw [hfault]
    refine ⟨[], [], w.server, { h with pool := q }, ?_, ?_, .none _ hext hopen⟩
    · rw [materialize_of_spread_error ha hsome hrun, houtlook, ← hsame]
    · rw [houtlook]
      exact .unasked

/-- The call that finds the entry waiting places the arrays, and leaves an entry that is usable or
failed as the outlook says. -/
theorem take_scripted {trainable : Bool}
    (hfind : s.find? p.id = some ⟨trainable, [], false, false⟩) :
    ∃ arrays calls y,
      (take p device slot).runFrom (s, h) =
        (outlook w (s, h) p >>= fun _ => arrays[slot]?.elim (.error .outOfRange) .ok, y) ∧
      Placing p device slot s h.pool y.2.pool arrays calls (outlook w (s, h) p) ∧
      Worked p.id calls (s, h) y ∧
      y.1.find? p.id = some ⟨trainable, arrays, (outlook w (s, h) p).isOk,
        !(outlook w (s, h) p).isOk⟩ := by
  obtain ⟨arrays, calls, v, k, hrun, hplacing, hinits⟩ :=
    runFrom_materialize_scripted hw hp harray hslot
  have hworked : ∀ f : Entry → Entry, Worked p.id calls (s, h)
      ((s.filled p.id arrays (some ⟨v, w.calls ++ calls⟩)).updateEntry p.id f, k) := by
    intro f
    refine ⟨rfl, rfl, ?_, ⟨w, _, hw, rfl, rfl, hinits⟩, hplacing.own⟩
    intro name hname
    rw [find?_updateEntry, if_neg hname, find?_filled, if_neg hname]
  have hentry : ∀ f : Entry → Entry,
      ((s.filled p.id arrays (some ⟨v, w.calls ++ calls⟩)).updateEntry p.id f).find? p.id =
        some (f ⟨trainable, arrays, false, false⟩) := by
    intro f
    rw [find?_updateEntry, if_pos rfl, find?_filled, if_pos rfl, hfind]
    rfl
  rw [runFrom_take_awaiting hfind rfl rfl, hrun]
  rcases houtlook : outlook w (s, h) p with fault | ⟨⟩
  · rw [houtlook] at hplacing
    exact ⟨arrays, calls, _, rfl, hplacing, hworked _,
      hentry fun e => { e with failed := true }⟩
  · rw [houtlook] at hplacing
    refine ⟨arrays, calls, _, ?_, hplacing, hworked _,
      hentry fun e => { e with materialized := true }⟩
    dsimp only
    rw [replicas, hentry]
    rfl

end Placing

end Store

end DataParallel

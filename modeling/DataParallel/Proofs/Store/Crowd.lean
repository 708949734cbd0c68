import DataParallel.Proofs.Store.Between
import DataParallel.Proofs.Store.Outlook

/-!
# Interleaved calls

The parts of several calls run in any order.  What a part does is listed by `Turned`; everything
later is read off this list: what holds in the middle of all calls is `Crowd.Steady`, and a call
that gets three turns ends.  What the server has got for one parameter is counted by `Since`, which
does not see what is done for the others.
-/

namespace DataParallel

open Step

/-! ## What a part of a call does -/

section Turned

open Store

variable {σ : Type} [ParameterServer σ] [Scripted σ]

/-- A call and the store after a part of the call. -/
inductive Turned (c : Caller) (x : Store (Watched σ) × Host) :
    Caller × Store (Watched σ) × Host → Prop where
  /-- The slot is looked up. -/
  | located {slot : Nat} : c.stage = .begun → x.1.registry.slotOf c.device = .ok slot →
    Turned c x ({ c with stage := .located slot }, x)
  /-- The entry is found or made. -/
  | listed {slot : Nat} : c.stage = .located slot →
    Turned c x ({ c with stage := .listed slot }, x.1.ensured c.parameter, x.2)
  /-- The entry is placed or failed, and answers. -/
  | answered {slot : Nat} {e : Entry} : c.stage = .listed slot →
    x.1.find? c.parameter.id = some e → e.failed = true ∨ e.materialized = true →
    Turned c x ({ c with stage := .ended (e.answer c.parameter.id slot) }, x)
  /-- The entry waits, and its replicas are placed. -/
  | placed {slot : Nat} {trainable : Bool} {w : Watched σ} {arrays : List ArrayId}
      {calls : List (Call × Except Fault Unit)} {y : Store (Watched σ) × Host} :
    c.stage = .listed slot → x.1.server = some w →
    x.1.find? c.parameter.id = some (.waiting trainable) →
    Placing c.parameter c.device slot x.1 x.2.pool y.2.pool arrays calls
      (outlook w x c.parameter) →
    Worked c.parameter.id calls x y →
    y.1.find? c.parameter.id = some ⟨trainable, arrays, (outlook w x c.parameter).isOk,
      !(outlook w x c.parameter).isOk⟩ →
    Turned c x ({ c with
      stage := .ended (outlook w x c.parameter >>= fun _ =>
        arrays[slot]?.elim (.error .outOfRange) .ok) }, y)
  /-- The call has ended. -/
  | idle {result : Except Fault ArrayId} : c.stage = .ended result → Turned c x (c, x)

omit [ParameterServer σ] [Scripted σ] in
theorem isPlacing_of_waiting {c : Caller} {s : Store σ} {slot : Nat} {trainable : Bool}
    (hstage : c.stage = .listed slot)
    (hfind : s.find? c.parameter.id = some (.waiting trainable)) : c.isPlacing s = true := by
  rw [Caller.isPlacing, hstage]
  dsimp only
  rw [hfind]
  rfl

omit [ParameterServer σ] [Scripted σ] in
/-- Nothing is placed for a parameter whose entry is placed or failed. -/
theorem isPlacing_of_entry {c : Caller} {s : Store σ} {e : Entry}
    (hfind : s.find? c.parameter.id = some e) (he : e.failed = true ∨ e.materialized = true) :
    c.isPlacing s = false := by
  rw [Caller.isPlacing]
  split
  · rw [hfind]
    rcases he with he | he
    · simp [he]
    · simp [he]
  · rfl

theorem Caller.turned {c : Caller} {x : Store (Watched σ) × Host} (hx : Regular x)
    (hc : c.Sane x) : Turned c x (c.advance x) := by
  obtain ⟨p, device, stage⟩ := c
  cases stage with
  | begun =>
    obtain ⟨slot, hslot, -⟩ := Registry.exists_slotOf hc.registered
    rw [advance_begun hslot]
    exact .located rfl hslot
  | located slot =>
    rw [advance_located]
    exact .listed rfl
  | listed slot =>
    obtain ⟨hslot, e, hfind⟩ := hc.listed slot rfl
    rw [advance_listed]
    rcases hx.entries hfind with ⟨trainable, rfl⟩ | ⟨hfailed, -⟩ | ⟨-, hm, -⟩
    · obtain ⟨w, hw⟩ := Option.isSome_iff_exists.mp hx.server
      obtain ⟨arrays, calls, y, hrun, hplacing, hworked, hentry⟩ :=
        take_scripted hw hx.sound hc.array hslot hfind
      rw [hrun]
      exact .placed rfl hw hfind hplacing hworked hentry
    · rw [take_answered hfind (.inl hfailed)]
      exact .answered rfl hfind (.inl hfailed)
    · rw [take_answered hfind (.inr hm)]
      exact .answered rfl hfind (.inr hm)
  | ended result =>
    rw [advance_ended]
    exact .idle rfl

theorem Store.Worked.ensured (p : Parameter) {x : Store (Watched σ) × Host}
    (hx : x.1.server.isSome) : Worked p.id [] x (x.1.ensured p, x.2) := by
  obtain ⟨hregistry, hmanager, hserver⟩ := ensured_same x.1 p
  obtain ⟨w, hw⟩ := Option.isSome_iff_exists.mp hx
  refine ⟨hregistry, hmanager, fun name hname => ?_, ⟨w, w, hw, hserver.trans hw,
    (List.append_nil _).symm, .none _ (Pool.Extends.refl _) fun _ => rfl⟩, List.forall_mem_nil _⟩
  rw [find?_ensured, if_neg fun hboth => hname hboth.1]

/-! ## What every part keeps -/

section Steps

variable {c : Caller} {x : Store (Watched σ) × Host} {r : Caller × Store (Watched σ) × Host}
  (h : Turned c x r)

include h

theorem Turned.asks : r.1.parameter = c.parameter ∧ r.1.device = c.device := by
  cases h with
  | located _ _ => exact ⟨rfl, rfl⟩
  | listed _ => exact ⟨rfl, rfl⟩
  | answered _ _ _ => exact ⟨rfl, rfl⟩
  | placed _ _ _ _ _ _ => exact ⟨rfl, rfl⟩
  | idle _ => exact ⟨rfl, rfl⟩

/-- A part that places nothing changes at most the table. -/
theorem Turned.quiet (hno : c.isPlacing x.1 = false) :
    r.2 = x ∨ r.2 = (x.1.ensured c.parameter, x.2) := by
  cases h with
  | located _ _ => exact .inl rfl
  | listed _ => exact .inr rfl
  | answered _ _ _ => exact .inl rfl
  | placed hstage _ hfind _ _ _ =>
    rw [isPlacing_of_waiting hstage hfind] at hno
    cases hno
  | idle _ => exact .inl rfl

/-- Whatever a part of a call does, it works for the parameter of the call. -/
theorem Turned.worked (hx : x.1.server.isSome) :
    ∃ made, Worked c.parameter.id made x r.2 ∧ (c.isPlacing x.1 = false → made = []) := by
  rcases hplacing : c.isPlacing x.1
  · refine ⟨[], ?_, fun _ => rfl⟩
    rcases h.quiet hplacing with hsame | hsame
    · rw [hsame]
      exact .refl _ hx
    · rw [hsame]
      exact .ensured c.parameter hx
  · cases h with
    | located _ _ => exact ⟨[], .refl _ hx, nofun⟩
    | listed _ => exact ⟨[], .ensured c.parameter hx, nofun⟩
    | answered _ _ _ => exact ⟨[], .refl _ hx, nofun⟩
    | placed _ _ _ _ hworked _ => exact ⟨_, hworked, nofun⟩
    | idle _ => exact ⟨[], .refl _ hx, nofun⟩

/-- What is settled stays. -/
theorem Turned.onward (hx : Regular x) : Onward x r.2 := by
  cases h with
  | located _ _ => exact .refl hx
  | listed _ => exact onward_ensured hx c.parameter
  | answered _ _ _ => exact .refl hx
  | @placed _ _ u _ _ _ _ _ hfind hplacing hworked hentry =>
    obtain ⟨v, w, -, hw, -⟩ := hworked.served
    refine .of_settled hx hworked.registry (by rw [hw]; rfl) hworked.pool.evolves hworked.others
      hfind hentry ?_
    rcases houtlook : outlook u x c.parameter with fault | ⟨⟩
    · exact .inl ⟨rfl, rfl⟩
    · rw [houtlook] at hplacing
      exact .inr ⟨rfl, rfl, hplacing.length⟩
  | idle _ => exact .refl hx

/-- A part that places replicas comes to what the outlook says. -/
theorem Turned.places (hplacing : c.isPlacing x.1 = true) :
    ∃ slot trainable w arrays calls, c.stage = .listed slot ∧ x.1.server = some w ∧
      x.1.find? c.parameter.id = some (.waiting trainable) ∧
      Placing c.parameter c.device slot x.1 x.2.pool r.2.2.pool arrays calls
        (outlook w x c.parameter) ∧
      Worked c.parameter.id calls x r.2 ∧
      r.2.1.find? c.parameter.id = some ⟨trainable, arrays, (outlook w x c.parameter).isOk,
        !(outlook w x c.parameter).isOk⟩ ∧
      r.1.result? = some (outlook w x c.parameter >>= fun _ =>
        arrays[slot]?.elim (.error .outOfRange) .ok) := by
  cases h with
  | located hstage _ =>
    rw [Caller.isPlacing, hstage] at hplacing
    cases hplacing
  | listed hstage =>
    rw [Caller.isPlacing, hstage] at hplacing
    cases hplacing
  | answered _ hfind he =>
    rw [isPlacing_of_entry hfind he] at hplacing
    cases hplacing
  | placed hstage hw hfind hplace hworked hentry =>
    exact ⟨_, _, _, _, _, hstage, hw, hfind, hplace, hworked, hentry, rfl⟩
  | idle hstage =>
    rw [Caller.isPlacing, hstage] at hplacing
    cases hplacing

/-- A call that ends without placing anything is answered from an entry. -/
theorem Turned.ends (hrunning : c.result? = none) (hno : c.isPlacing x.1 = false)
    {res : Except Fault ArrayId} (hres : r.1.result? = some res) :
    ∃ slot e, c.stage = .listed slot ∧ x.1.find? c.parameter.id = some e ∧
      (e.failed = true ∨ e.materialized = true) ∧ res = e.answer c.parameter.id slot := by
  cases h with
  | located _ _ => cases hres
  | listed _ => cases hres
  | answered hstage hfind he => exact ⟨_, _, hstage, hfind, he, (Option.some.inj hres).symm⟩
  | placed hstage _ hfind _ _ _ =>
    rw [isPlacing_of_waiting hstage hfind] at hno
    cases hno
  | idle _ =>
    rw [hrunning] at hres
    cases hres

end Steps

/-! ## Since the start -/

/-- The calls that a server has got for a parameter. -/
def Watched.callsFor (w : Watched σ) (id : String) : List (Call × Except Fault Unit) :=
  w.calls.filter fun c => c.1.parameter = id

/-- What has become of a store and its host, and of the server as far as it knows a parameter: all
that was there is still there, and the server has got the given calls for the parameter. -/
structure Since (id : String) (x y : Store (Watched σ) × Host)
    (calls : List (Call × Except Fault Unit)) : Prop where
  registry : y.1.registry = x.1.registry
  manager : y.1.manager = x.1.manager
  pool : x.2.pool.Extends y.2.pool
  isOpen : ∀ m, (y.2.pool.manager m).isOpen = (x.2.pool.manager m).isOpen
  served : ∃ v w : Watched σ, x.1.server = some v ∧ y.1.server = some w ∧
    w.callsFor id = v.callsFor id ++ calls ∧
    Scripted.script w.server = Scripted.script v.server ∧
    Scripted.count w.server id = Scripted.count v.server id + calls.length

theorem Since.refl (id : String) {x : Store (Watched σ) × Host} {v : Watched σ}
    (hv : x.1.server = some v) : Since id x x [] where
  registry := rfl
  manager := rfl
  pool := Pool.Extends.refl _
  isOpen _ := rfl
  served := ⟨v, v, hv, hv, (List.append_nil _).symm, rfl, rfl⟩

/-- Calls for one parameter are no calls for another. -/
theorem filter_own {id name : String} {calls : List (Call × Except Fault Unit)}
    (hown : ∀ c ∈ calls, c.1.parameter = name) :
    calls.filter (fun c => c.1.parameter = id) = if name = id then calls else [] := by
  split
  · next h =>
    rw [List.filter_eq_self]
    intro c hc
    rw [hown c hc, h]
    simp
  · next h =>
    rw [List.filter_eq_nil_iff]
    intro c hc
    rw [hown c hc]
    simpa using h

theorem Since.work {id name : String} {x y z : Store (Watched σ) × Host}
    {calls made : List (Call × Except Fault Unit)} (h : Since id x y calls)
    (hworked : Worked name made y z) :
    Since id x z (calls ++ if name = id then made else []) := by
  obtain ⟨v, w, hv, hw, hcalls, hscript, hcount⟩ := h.served
  obtain ⟨w', u, hw', hu, hmade, hinits⟩ := hworked.served
  obtain rfl : w = w' := Option.some.inj (hw.symm.trans hw')
  refine ⟨hworked.registry.trans h.registry, hworked.manager.trans h.manager,
    h.pool.trans hinits.pool, fun m => (hinits.isOpen m).trans (h.isOpen m),
    ⟨v, u, hv, hu, ?_, hinits.script.trans hscript, ?_⟩⟩
  · rw [Watched.callsFor, hmade, List.filter_append, filter_own hworked.own, ← List.append_assoc,
      ← hcalls]
    rfl
  · rw [hinits.count, hcount, List.length_append]
    by_cases hid : name = id
    · rw [if_pos hid.symm, if_pos hid]
      omega
    · rw [if_neg (Ne.symm hid), if_neg hid]
      rfl

/-- As long as nothing was called for a parameter, its outlook is what it was. -/
theorem Since.outlook {p : Parameter} {x y : Store (Watched σ) × Host} {v w : Watched σ}
    (h : Since p.id x y []) (hv : x.1.server = some v) (hw : y.1.server = some w)
    (hx : x.2.pool.Sound) (harray : ∀ a ∈ p.array, x.2.pool.Has a) :
    Store.outlook w y p = Store.outlook v x p := by
  obtain ⟨v', w', hv', hw', -, hscript, hcount⟩ := h.served
  obtain rfl : v = v' := Option.some.inj (hv.symm.trans hv')
  obtain rfl : w = w' := Option.some.inj (hw.symm.trans hw')
  rcases ha : p.array with _ | a
  · rw [Store.outlook, Store.outlook, ha]
  · have hfault : spreadFault y.1 y.2.pool a = spreadFault x.1 x.2.pool a := by
      rw [spreadFault, spreadFault, copyFault, copyFault, h.registry, h.manager,
        h.pool.items? hx (harray a ha), h.isOpen]
    rw [Store.outlook, Store.outlook, ha]
    dsimp only
    rw [hfault, hscript, hcount, h.registry, List.length_nil, Nat.add_zero]

/-- A placement in a later state is one from the start. -/
theorem Store.Placing.since {p : Parameter} {id : String} {device : Device} {slot : Nat}
    {x y : Store (Watched σ) × Host} {q : Pool} {arrays : List ArrayId}
    {calls made : List (Call × Except Fault Unit)} {r : Except Fault Unit}
    (h : Placing p device slot y.1 y.2.pool q arrays made r) (hsince : Since id x y calls)
    (hx : x.2.pool.Sound) (harray : ∀ a ∈ p.array, x.2.pool.Has a) :
    Placing p device slot x.1 x.2.pool q arrays made r := by
  obtain ⟨v, w, hv, hw, -⟩ := hsince.served
  cases h with
  | unasked => exact .unasked
  | @asked a all _ _ _ ha hplacement hcalls =>
    refine .asked ha ⟨?_, hplacement.nodup, ?_, ?_⟩ hcalls
    · rw [hplacement.length, hsince.registry]
    · intro i
      rw [hplacement.canonical i, hv, hw]
      simp
    · intro i c hc hne
      obtain ⟨d, t, hd, ht, hcopy⟩ := hplacement.copy hc hne
      rw [hsince.registry] at hd
      rw [hsince.pool.items? hx (harray a ha)] at ht
      exact ⟨d, t, hd, ht, hcopy.of_extends hsince.pool⟩

/-! ## Crowds -/

/-- Calls that have just begun, for registered devices of a store with a server; calls for the same
name are calls for the same parameter. -/
structure Crowd.Ready (start : Crowd (Watched σ)) (v : Watched σ) : Prop where
  consistent : Consistent start.shared
  server : start.shared.1.server = some v
  begun : ∀ c ∈ start.callers, c.stage = .begun
  registered : ∀ c ∈ start.callers, c.device ∈ start.shared.1.registry.devices
  array : ∀ c ∈ start.callers, ∀ a ∈ c.parameter.array, start.shared.2.pool.Has a
  distinct : ∀ c ∈ start.callers, ∀ d ∈ start.callers,
    c.parameter.id = d.parameter.id → c.parameter = d.parameter

/-- What a caller asks for. -/
def Caller.asks (c : Caller) : Parameter × Device := (c.parameter, c.device)

/-- What holds in the middle of all calls. -/
structure Crowd.Steady (start now : Crowd (Watched σ)) : Prop where
  regular : Regular now.shared
  since : ∀ id, ∃ calls, Since id start.shared now.shared calls
  asks : now.callers.map Caller.asks = start.callers.map Caller.asks
  sane : ∀ c ∈ now.callers, c.Sane now.shared

theorem Crowd.Ready.steady {start : Crowd (Watched σ)} {v : Watched σ} (h : start.Ready v) :
    Steady start start where
  regular := h.consistent.regular (by rw [h.server]; rfl)
  since id := ⟨[], .refl id h.server⟩
  asks := rfl
  sane c hc := .of_begun (h.begun c hc) (h.registered c hc) (h.array c hc)

theorem Crowd.Steady.turned {start now : Crowd (Watched σ)} (h : Steady start now) {i : Nat}
    {c : Caller} (hc : now.callers[i]? = some c) :
    Turned c now.shared (c.advance now.shared) :=
  c.turned h.regular (h.sane c (List.mem_of_getElem? hc))

/-- A turn changes no question. -/
theorem map_asks_set {callers : List Caller} {i : Nat} {c d : Caller}
    (hc : callers[i]? = some c) (hsame : d.asks = c.asks) :
    (callers.set i d).map Caller.asks = callers.map Caller.asks := by
  obtain ⟨hi, rfl⟩ := List.getElem?_eq_some_iff.mp hc
  have hself := @List.set_getElem_self _ (callers.map Caller.asks) i (by simpa using hi)
  rw [List.getElem_map] at hself
  rw [List.map_set, hsame, hself]

theorem Crowd.Steady.turn {start now : Crowd (Watched σ)} (h : Steady start now) (i : Nat) :
    Steady start (now.turn i) := by
  rcases hc : now.callers[i]? with _ | c
  · rw [turn_of_none hc]
    exact h
  · have hturned := h.turned hc
    have honward := hturned.onward h.regular
    rw [turn_of_some hc]
    constructor
    · exact honward.regular
    · intro id
      obtain ⟨calls, hsince⟩ := h.since id
      obtain ⟨made, hworked, -⟩ := hturned.worked h.regular.server
      exact ⟨_, hsince.work hworked⟩
    · rw [map_asks_set hc (Prod.ext hturned.asks.1 hturned.asks.2)]
      exact h.asks
    · intro d hd
      rcases List.mem_or_eq_of_mem_set hd with hold | rfl
      · exact honward.sane (h.sane d hold)
      · exact (h.sane c (List.mem_of_getElem? hc)).advance honward

theorem Crowd.Steady.after {start now : Crowd (Watched σ)} (h : Steady start now)
    (turns : List Nat) : Steady start (now.after turns) := by
  induction turns generalizing now with
  | nil => exact h
  | cons i turns ih => exact ih (h.turn i)

/-! ## The end of all calls -/

/-- The number of parts that are left of a call. -/
def Stage.left : Stage → Nat
  | .begun => 3
  | .located _ => 2
  | .listed _ => 1
  | .ended _ => 0

theorem Turned.left {c : Caller} {x : Store (Watched σ) × Host}
    {r : Caller × Store (Watched σ) × Host} (h : Turned c x r) :
    r.1.stage.left = c.stage.left - 1 := by
  cases h with
  | located hstage _ => rw [hstage]; rfl
  | listed hstage => rw [hstage]; rfl
  | answered hstage _ _ => rw [hstage]; rfl
  | placed hstage _ _ _ _ _ => rw [hstage]; rfl
  | idle hstage => rw [hstage]; rfl

/-- A call has one part less with each of its turns. -/
theorem Crowd.Steady.left {start now : Crowd (Watched σ)} (h : Steady start now)
    (turns : List Nat) {i : Nat} {c : Caller} (hc : now.callers[i]? = some c) :
    ∃ d, (now.after turns).callers[i]? = some d ∧
      d.stage.left = c.stage.left - turns.count i := by
  induction turns generalizing now c with
  | nil => exact ⟨c, hc, rfl⟩
  | cons j turns ih =>
    rw [List.count_cons]
    by_cases hj : j = i
    · obtain rfl := hj
      have hnext : (now.turn j).callers[j]? = some (c.advance now.shared).1 := by
        rw [turn_of_some hc]
        exact List.getElem?_set_self (List.getElem?_eq_some_iff.mp hc).1
      obtain ⟨d, hd, hleft⟩ := ih (h.turn j) hnext
      have hturn := (h.turned hc).left
      refine ⟨d, hd, ?_⟩
      rw [if_pos (beq_self_eq_true j)]
      omega
    · have hsame : (now.turn j).callers[i]? = some c := by
        rcases hb : now.callers[j]? with _ | b
        · rw [turn_of_none hb]
          exact hc
        · rw [turn_of_some hb, ← hc]
          exact List.getElem?_set_ne hj
      obtain ⟨d, hd, hleft⟩ := ih (h.turn j) hsame
      refine ⟨d, hd, ?_⟩
      rw [if_neg (by simpa using hj)]
      exact hleft

theorem Crowd.Ready.left {start : Crowd (Watched σ)} {v : Watched σ} (h : start.Ready v)
    (turns : List Nat) {i : Nat} {c : Caller} (hc : start.callers[i]? = some c) :
    ∃ d, (start.after turns).callers[i]? = some d ∧ d.stage.left = 3 - turns.count i := by
  obtain ⟨d, hd, hleft⟩ := h.steady.left turns hc
  rw [h.begun c (List.mem_of_getElem? hc)] at hleft
  exact ⟨d, hd, hleft⟩

omit [ParameterServer σ] [Scripted σ] in
/-- Replicas are placed in the third part. -/
theorem Caller.left_of_isPlacing {c : Caller} {s : Store σ} (h : c.isPlacing s = true) :
    c.stage.left = 1 := by
  rw [isPlacing] at h
  split at h
  · next hstage =>
    rw [hstage]
    rfl
  · cases h

theorem Caller.isSome_result? {c : Caller} : c.result?.isSome ↔ c.stage.left = 0 := by
  rcases hstage : c.stage with _ | slot | slot | result
  all_goals simp [result?, hstage, Stage.left]

end Turned

end DataParallel

import DataParallel.Proofs.Store.Restricted
import DataParallel.Proofs.Store.TouchCalls

/-!
# A first touch that fails

If the server refuses a call of a first touch, the entry keeps the arrays that
were registered before and is failed.  A failed entry refuses all calls for its
parameter, and rounds if the parameter is trainable, and nothing else sees it.
It stays until it is dropped, and then the parameter is placed as in a new
store.
-/

namespace DataParallel

open Step

namespace Store

variable {σ : Type}

/-! ## A touch that broke off -/

/-- What a first touch on the device of a slot leaves that broke off at the
call with the number `n`, when the parameter was to be placed in `all`. -/
structure BrokenTouch (x y : Store (Watched σ) × Host) (p : Parameter) (device : Device)
    (slot n : Nat) (fault : Fault) (calls : List (Call × Except Fault Unit))
    (all : List ArrayId) : Prop where
  lt : n < all.length
  /-- There was to be an array for each device. -/
  length : all.length = x.1.registry.devices.length
  /-- The canonical array and its copies were to be registered, one call for each. -/
  seated : ∀ a ∈ p.array, Seated x y device slot a all
  calls : calls = List.replicate n (registered p.id all) ++ [refused p.id all fault]
  /-- The arrays before the call that broke off are in the entry. -/
  replicas : y.1.replicas p.id = all.take n
  entry : y.1.find? p.id = some ⟨p.requiresGradient.truthy, all.take n, false, true⟩
  /-- The entries of other parameters are as before. -/
  others : ∀ id, id ≠ p.id → y.1.find? id = x.1.find? id
  registry : y.1.registry = x.1.registry

/-- The one call among those of a registration that broke off that has failed
is the last one. -/
theorem eq_of_refused {id : String} {all : List ArrayId} {k n : Nat} {c : Call}
    {fault fault' : Fault}
    (h : (List.replicate n (registered id all) ++ [refused id all fault])[k]? =
      some (c, .error fault')) : k = n ∧ fault = fault' := by
  rcases Nat.lt_trichotomy k n with hlt | rfl | hgt
  · rw [List.getElem?_append_left (by simpa using hlt), List.getElem?_replicate, if_pos hlt] at h
    cases h
  · rw [List.getElem?_append_right (by simp)] at h
    simp only [List.length_replicate, Nat.sub_self, List.getElem?_cons_zero] at h
    cases h
    exact ⟨rfl, rfl⟩
  · have hlength : (List.replicate n (registered id all) ++ [refused id all fault]).length ≤ k := by
      simp
      omega
    rw [List.getElem?_eq_none hlength] at h
    cases h

/-- A first touch with a call that failed has broken off there. -/
theorem TouchCalls.brokenTouch {x : Store (Watched σ) × Host} {p : Parameter} {device : Device}
    {slot : Nat} {w : Watched σ} {calls : List (Call × Except Fault Unit)}
    {r : Except Fault ArrayId × Store (Watched σ) × Host}
    (h : TouchCalls p device slot x w calls r) (hr : Consistent r.2)
    (hslot : x.1.registry.slotOf device = .ok slot) (harray : ∀ a ∈ p.array, x.2.pool.Has a)
    (hserver : x.1.server.isSome) {k : Nat} {c : Call} {fault : Fault}
    (hk : calls[k]? = some (c, .error fault)) :
    r.1 = .error fault ∧ ∃ all, BrokenTouch x r.2 p device slot k fault calls all := by
  cases h with
  | unasked => cases hk
  | placed _ _ _ _ hsame =>
    rw [hsame] at hk
    cases List.eq_of_mem_replicate (List.mem_of_getElem? hk)
  | @broken a all q v l n fault' _ ha hplacement hext hq hlt hsame =>
    rw [hsame] at hk
    obtain ⟨rfl, rfl⟩ := eq_of_refused hk
    have hfind : (x.1.settled p (all.take k) false (some ⟨v, w.calls ++ calls⟩)).find? p.id =
        some ⟨p.requiresGradient.truthy, all.take k, false, true⟩ := by
      rw [find?_settled, if_pos rfl]
      rfl
    refine ⟨rfl, all, ⟨hlt, hplacement.length, ?_, hsame, ?_, hfind, ?_, rfl⟩⟩
    · intro b hb
      rw [ha] at hb
      rw [← Option.some.inj hb]
      exact hplacement.seated hr hslot (harray a ha) hext hq rfl hserver.symm
    · rw [replicas, hfind]
      rfl
    · intro id hid
      rw [find?_settled, if_neg hid]

/-! ## What a failed entry does -/

theorem checkPlaced_of_failed {s : Store σ} {h : Host} {ids : List String}
    (hfailed : ∃ id ∈ ids, ∃ e, s.find? id = some e ∧ e.failed = true) :
    ∃ id, (checkPlaced ids).runFrom (s, h) = (.error (.partlyPlaced id), s, h) := by
  induction ids with
  | nil =>
    obtain ⟨id, hmem, -⟩ := hfailed
    cases hmem
  | cons name rest ih =>
    rw [checkPlaced, runFrom_bind_of_ok (runFrom_get _)]
    dsimp only
    by_cases hname : (s.find? name).any Entry.failed = true
    · rw [if_pos hname]
      exact ⟨name, rfl⟩
    · rw [if_neg hname]
      apply ih
      obtain ⟨id, hmem, e, hfind, he⟩ := hfailed
      rcases List.mem_cons.mp hmem with rfl | hrest
      · rw [hfind] at hname
        exact absurd he hname
      · exact ⟨id, hrest, e, hfind, he⟩

variable [ParameterServer σ]

/-- A round with a failed entry of a trainable parameter ends before anything
is done. -/
theorem updateAll_of_failed {x : Store σ × Host} (hserver : x.1.server.isSome)
    (hfailed : ∃ id ∈ x.1.trainable, ∃ e, x.1.find? id = some e ∧ e.failed = true) :
    ∃ id, updateAll.runFrom x = (.error (.partlyPlaced id), x) := by
  obtain ⟨id, hcheck⟩ := checkPlaced_of_failed (h := x.2) hfailed
  obtain ⟨v, hv⟩ := Option.isSome_iff_exists.mp hserver
  refine ⟨id, ?_⟩
  rw [updateAll, runFrom_bind_of_ok (runFrom_get _)]
  simp only [hv, Option.isNone_some, Bool.false_eq_true, ↓reduceIte]
  rw [runFrom_bind_of_error hcheck]

/-- What a failed entry of a parameter does to the calls of a store. -/
structure Blocked (x : Store σ × Host) (id : String) (trainable : Bool) : Prop where
  /-- Calls for the parameter are refused and change nothing. -/
  refused : ∀ {q : Parameter} {device}, q.id = id → device ∈ x.1.registry.devices →
    (getValue q device).runFrom x = (.error (.partlyPlaced id), x)
  /-- Rounds are refused and change nothing if the parameter is trainable. -/
  round : trainable = true → ∃ name, updateAll.runFrom x = (.error (.partlyPlaced name), x)
  /-- Rounds do not see the entry if the parameter is frozen. -/
  frozen : trainable = false →
    updateAll.runFrom (x.1.reset (some id), x.2) =
      ((updateAll.runFrom x).1, (updateAll.runFrom x).2.1.reset (some id),
        (updateAll.runFrom x).2.2)
  /-- Calls for other parameters do not see the entry. -/
  others : ∀ {q : Parameter} {device}, q.id ≠ id →
    (getValue q device).runFrom (x.1.reset (some id), x.2) =
      (((getValue q device).runFrom x).1, ((getValue q device).runFrom x).2.1.reset (some id),
        ((getValue q device).runFrom x).2.2)

theorem Consistent.blocked {x : Store σ × Host} (hx : Consistent x)
    (hserver : x.1.server.isSome) {id : String} {e : Entry} (hfind : x.1.find? id = some e)
    (hfailed : e.failed = true) : Blocked x id e.trainable where
  refused := by
    rintro q device rfl hdevice
    obtain ⟨slot, hslot, -⟩ := Registry.exists_slotOf hdevice
    exact getValue_of_failed hslot hfind hfailed
  round := by
    intro htrainable
    have hmem : id ∈ x.1.trainable := (mem_trainable hx.names).mpr ⟨e, hfind, htrainable⟩
    exact updateAll_of_failed hserver ⟨id, hmem, e, hfind, hfailed⟩
  frozen := by
    intro hfrozen
    have hkeep : ∀ name ∈ x.1.trainable, (name != id) = true := by
      intro name hmem
      obtain ⟨e', hfind', htrainable⟩ := (mem_trainable hx.names).mp hmem
      rw [bne_iff_ne]
      rintro rfl
      rw [hfind] at hfind'
      rw [← Option.some.inj hfind', hfrozen] at htrainable
      cases htrainable
    have hround := updateAll_restricted hkeep
    exact hround
  others := by
    intro q device hne
    have hunseen : Unseen (restricted (· != id) : Store σ → _) q.id :=
      unseen_restricted (bne_iff_ne.mpr hne)
    exact hunseen.getValue device x

/-! ## Dropped entries, and new stores -/

/-- A move that does not spare an entry drops it. -/
theorem Move.find?_of_not_spares {x : Store σ × Host} {move : Move σ} {id : String}
    (h : ¬ move.Spares id) : (move.after x).1.find? id = none := by
  rcases move with ⟨p, device⟩ | _ | ⟨server, devices⟩ | name | ⟨change, host⟩
  · exact absurd trivial h
  · exact absurd trivial h
  · rcases server with _ | v
    · exact absurd (fun _ _ => rfl) h
    · rcases hr : Registry.ofDevices devices with fault | r
      · refine absurd (fun r hok => ?_) h
        rw [hr] at hok
        cases hok
      · obtain ⟨k, -, hrun⟩ := setServer_ok x v hr
        rw [Move.after, hrun]
        rfl
  · rw [Move.after, find?_reset]
    rcases name with _ | name
    · exact if_pos (Or.inl rfl)
    · have hname : name = id := Decidable.not_not.mp h
      exact if_pos (Or.inr (congrArg some hname))
  · exact absurd trivial h

omit [ParameterServer σ] in
/-- Without an entry for a parameter the others can be dropped as well. -/
theorem restricted_of_find?_eq_none {s : Store σ} {id : String} (hnone : s.find? id = none) :
    s.restricted (· == id) = s.reset none := by
  have hentries : s.entries.filter (fun entry => entry.1 == id) = [] := by
    rw [List.filter_eq_nil_iff]
    intro entry hmem
    have hne : (id != entry.1) = true := List.lookup_eq_none_iff.mp hnone entry hmem
    intro heq
    rw [beq_iff_eq.mp heq, bne_self_eq_false] at hne
    cases hne
  rw [restricted, hentries]
  rfl

/-- A new store with the manager and the way of copying of another one, which
has gone over to the same server and devices. -/
def FreshLike (t s : Store σ) : Prop :=
  ∃ device h k, (setServer s.server s.registry.devices).runFrom
    (new s.manager device s.copy, h) = (.ok (), t, k)

omit [ParameterServer σ] in
theorem freshLike_reset {s : Store σ} (hserver : s.server.isSome)
    (hdevices : s.registry.devices ≠ []) : FreshLike (s.reset none) s := by
  obtain ⟨v, hv⟩ := Option.isSome_iff_exists.mp hserver
  obtain ⟨k, -, hrun⟩ := setServer_ok (new s.manager default s.copy, default) v
    (Registry.ofDevices_devices hdevices)
  refine ⟨default, default, k, ?_⟩
  rw [hv, hrun, reset, hv]
  rfl

/-! ## From the failure on -/

/-- What the first call for a parameter does that has no entry, as in a new
store. -/
structure Retried (x : Store (Watched σ) × Host) (p : Parameter) (device : Device) : Prop where
  /-- A new store gives the same array or fault, and leaves the same entry,
  server and host. -/
  fresh : ∃ t, FreshLike t x.1 ∧
    ((getValue p device).runFrom (t, x.2)).1 = ((getValue p device).runFrom x).1 ∧
    ((getValue p device).runFrom (t, x.2)).2.1.find? p.id =
      ((getValue p device).runFrom x).2.1.find? p.id ∧
    ((getValue p device).runFrom (t, x.2)).2.1.server =
      ((getValue p device).runFrom x).2.1.server ∧
    ((getValue p device).runFrom (t, x.2)).2.2 = ((getValue p device).runFrom x).2.2
  /-- If the server is called and no call fails, there is an array in each slot. -/
  placed : ∀ {w v calls}, x.1.server = some w →
    ((getValue p device).runFrom x).2.1.server = some v → v.calls = w.calls ++ calls →
    calls ≠ [] → (∀ c ∈ calls, c.2 = .ok ()) →
    ∃ a slot all, ((getValue p device).runFrom x).1 = .ok a ∧ p.array = some a ∧
      x.1.registry.slotOf device = .ok slot ∧
      calls = List.replicate x.1.registry.devices.length (registered p.id all) ∧
      all.length = x.1.registry.devices.length ∧
      ((getValue p device).runFrom x).2.1.find? p.id =
        some ⟨p.requiresGradient.truthy, all, true, false⟩ ∧
      Seated x ((getValue p device).runFrom x).2 device slot a all

variable [Contained σ]

theorem Consistent.retried {x : Store (Watched σ) × Host} (hx : Consistent x)
    (hserver : x.1.server.isSome) {p : Parameter} {device : Device}
    (harray : ∀ a ∈ p.array, x.2.pool.Has a) (hnone : x.1.find? p.id = none)
    (hdevice : device ∈ x.1.registry.devices) : Retried x p device where
  fresh := by
    have hunseen : Unseen (restricted (· == p.id) : Store (Watched σ) → _) p.id :=
      unseen_restricted (beq_self_eq_true p.id)
    have hmirrors := hunseen.getValue device x
    have hfresh : besideHost (restricted (· == p.id)) x = (x.1.reset none, x.2) :=
      Prod.ext (restricted_of_find?_eq_none hnone) rfl
    rw [hfresh] at hmirrors
    refine ⟨x.1.reset none, freshLike_reset hserver (List.ne_nil_of_mem hdevice), ?_⟩
    rw [hmirrors]
    exact ⟨rfl, hunseen.entry _, rfl, rfl⟩
  placed := by
    intro w v calls hw hv hcalls hne hok
    obtain ⟨slot, hslot, -⟩ := Registry.exists_slotOf hdevice
    obtain ⟨made, htouch⟩ := hx.touchCalls harray hslot hnone hw
    have hy := (hx.asked harray device).consistent hx
    have hmade := htouch.eq_of_server hv hcalls
    generalize (getValue p device).runFrom x = r at htouch hy ⊢
    cases htouch with
    | unasked => exact absurd hmade hne
    | @placed a all q v' k _ ha hplacement hext hq hsame =>
      have hhas : x.2.pool.Has a := harray a ha
      have hfind : (x.1.settled p all true (some ⟨v', w.calls ++ made⟩)).find? p.id =
          some ⟨p.requiresGradient.truthy, all, true, false⟩ := by
        rw [find?_settled, if_pos rfl]
        rfl
      have hseated := hplacement.seated hy hslot hhas hext hq rfl hserver.symm
      refine ⟨a, slot, all, rfl, ha, hslot, ?_, hplacement.length, hfind, hseated⟩
      rw [hmade, hsame, hplacement.length]
    | @broken a all q v' k n fault _ ha hplacement hext hq hlt hsame =>
      have hmem : refused p.id all fault ∈ calls := by
        rw [hmade, hsame]
        exact List.mem_append_right _ (List.mem_singleton.mpr rfl)
      cases hok _ hmem

/-- If a call of the server fails during a first touch, the touch fails with
the same fault, and the entry has the arrays of the calls before.  As long as
nothing drops the entry, it blocks its parameter and nothing else.  Once it is
dropped, the next touch is a first touch in a new store. -/
theorem failed_touch {start x : Store (Watched σ) × Host} {moves : List (Move (Watched σ))}
    (hstart : Begins start) (hrun : Run start moves x) {w : Watched σ}
    (hserver : x.1.server = some w) {p : Parameter} {device : Device}
    (harray : ∀ a ∈ p.array, x.2.pool.Has a) (hnone : x.1.find? p.id = none)
    {y : Store (Watched σ) × Host} (hy : y = ((getValue p device).runFrom x).2)
    {v : Watched σ} {calls : List (Call × Except Fault Unit)} (hv : y.1.server = some v)
    (hcalls : v.calls = w.calls ++ calls) {k : Nat} {c : Call} {fault : Fault}
    (hk : calls[k]? = some (c, .error fault)) :
    ((getValue p device).runFrom x).1 = .error fault ∧
    (∃ slot all, x.1.registry.slotOf device = .ok slot ∧
      BrokenTouch x y p device slot k fault calls all) ∧
    (∀ later z, Run y later z → (∀ move ∈ later, Move.Spares p.id move) →
      z.1.replicas p.id = y.1.replicas p.id ∧ Blocked z p.id p.requiresGradient.truthy ∧
      ∀ move : Move (Watched σ), ¬ move.Spares p.id → (move.after z).1.find? p.id = none) ∧
    (∀ later z, Run y later z → z.1.find? p.id = none → ∀ q d, q.id = p.id →
      (∀ a ∈ q.array, z.2.pool.Has a) → d ∈ z.1.registry.devices → Retried z q d) := by
  obtain ⟨hbegin, -⟩ := hstart.consistent
  have hx := hrun.consistent hbegin
  have hsome : x.1.server.isSome := by
    rw [hserver]
    rfl
  have hasked := hx.asked harray device
  have hdevice : device ∈ x.1.registry.devices := by
    refine Decidable.not_not.mp fun hdevice => ?_
    rw [getValue_of_not_mem hdevice] at hy
    rw [hy, hserver] at hv
    rw [← Option.some.inj hv, List.self_eq_append_right] at hcalls
    rw [hcalls] at hk
    cases hk
  obtain ⟨slot, hslot, -⟩ := Registry.exists_slotOf hdevice
  obtain ⟨made, htouch⟩ := hx.touchCalls harray hslot hnone hserver
  have hcons := hasked.consistent hx
  rw [hy] at hv
  have hmade := htouch.eq_of_server hv hcalls
  rw [← hmade] at htouch
  obtain ⟨hresult, all, hbroken⟩ := htouch.brokenTouch hcons hslot harray hsome hk
  rw [← hy] at hv hcons hbroken
  have hysome : y.1.server.isSome := by
    rw [hv]
    rfl
  refine ⟨hresult, ⟨slot, all, hslot, hbroken⟩, ?_, ?_⟩
  · intro later z hlater hspares
    obtain ⟨hkept, -⟩ := hlater.find?_of_spares hcons hspares hbroken.entry
    have hz := hlater.consistent hcons
    refine ⟨?_, hz.blocked (hlater.isSome_server hcons hysome) hkept rfl, ?_⟩
    · rw [replicas, replicas, hkept, hbroken.entry]
    · exact fun move hmove => Move.find?_of_not_spares hmove
  · rintro later z hlater hgone q d hid hq hd
    rw [← hid] at hgone
    exact (hlater.consistent hcons).retried (hlater.isSome_server hcons hysome) hq hgone hd

/-- On two devices, with a server that refuses the second init call. -/
theorem failed_touch_trial :
    ∃ x y : Store (Watched RecordingServer) × Host,
      ((getValue trialParameter .gpu).runFrom x).1 = .error .initRefused ∧
      BrokenTouch x y trialParameter .gpu 1 1 .initRefused
        [registered "weight" [⟨1⟩, ⟨0⟩], refused "weight" [⟨1⟩, ⟨0⟩] .initRefused] [⟨1⟩, ⟨0⟩] ∧
      Blocked y "weight" true ∧ Retried (y.1.reset (some "weight"), y.2) trialParameter .cpu := by
  have hrun : Run (trialStart : Store (Watched RecordingServer) × Host) _ _ :=
    .snoc (.setServer (some ⟨{ RecordingServer.new with refusedInit := some 1 }, []⟩) [.cpu, .gpu])
      .nil trivial
  obtain ⟨v, hv⟩ := Option.isSome_iff_exists.mp
    (rfl : ((getValue trialParameter .gpu).runFrom (Move.after trialStart
      (.setServer (some (⟨{ RecordingServer.new with refusedInit := some 1 }, []⟩ :
        Watched RecordingServer)) [.cpu, .gpu]))).2.1.server.isSome = true)
  have hcalls : v.calls =
      [] ++ [registered "weight" [⟨1⟩, ⟨0⟩], refused "weight" [⟨1⟩, ⟨0⟩] .initRefused] :=
    congrArg Watched.calls (Option.some.inj hv).symm
  have hk : [registered "weight" [⟨1⟩, ⟨0⟩], refused "weight" [⟨1⟩, ⟨0⟩] .initRefused][1]? =
      some (⟨.init, "weight", [⟨1⟩, ⟨0⟩], none⟩, .error .initRefused) := rfl
  obtain ⟨hfault, ⟨slot, all, hslot, hbroken⟩, hblocked, hretried⟩ :=
    failed_touch begins_trialStart hrun rfl (by decide) rfl rfl hv hcalls hk
  obtain rfl : 1 = slot := Except.ok.inj hslot
  have hall : all = [⟨1⟩, ⟨0⟩] :=
    (congrArg (fun c => c.1.arrays) (List.cons.inj hbroken.calls).1).symm
  rw [hall] at hbroken
  refine ⟨_, _, hfault, hbroken, (hblocked [] _ .nil (by simp)).2.1, ?_⟩
  exact hretried [.reset (some "weight")] _ (.snoc (.reset (some "weight")) .nil trivial) rfl
    trialParameter .cpu rfl (by decide) (by decide)

end Store

end DataParallel

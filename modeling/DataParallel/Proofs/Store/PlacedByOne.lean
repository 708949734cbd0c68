import DataParallel.Proofs.Store.Crowd

/-!
# Placed by one of several calls

In whatever order the parts of several calls run, one call places the replicas of a parameter that
had no entry, and all others for the parameter are answered from the entry that it leaves.  Every
part of every call respects the `Phase` of the parameter: its entry is missing or waits and no call
for it has ended, or there is the `Verdict` of the one call that has placed the replicas or failed
to.
-/

namespace DataParallel.Crowd

open Step Store

/-! ## Results -/

section Results

variable {σ : Type}

/-- What holds of the results of all calls for a parameter that have ended. -/
def Results (start now : Crowd σ) (p : Parameter)
    (P : Nat → Device → Except Fault ArrayId → Prop) : Prop :=
  ∀ i c r, start.callers[i]? = some c → c.parameter = p → now.result? i = some r →
    P i c.device r

theorem placing?_of_some {now : Crowd σ} {i : Nat} {c : Caller} (hc : now.callers[i]? = some c) :
    now.placing? i = if c.isPlacing now.shared.1 then some c.parameter.id else none := by
  rw [placing?, hc, Option.filter_some]
  split
  · rfl
  · rfl

theorem not_isPlacing {now : Crowd σ} {i : Nat} {c : Caller} (hc : now.callers[i]? = some c)
    (hno : now.placing? i ≠ some c.parameter.id) : c.isPlacing now.shared.1 = false := by
  rw [placing?_of_some hc] at hno
  simpa using hno

variable [ParameterServer σ]

/-- A call that has ended does nothing more. -/
theorem advance_of_result {c : Caller} {r : Except Fault ArrayId} (hr : c.result? = some r)
    (x : Store σ × Host) : c.advance x = (c, x) := by
  obtain ⟨p, device, stage⟩ := c
  cases stage with
  | begun => cases hr
  | located slot => cases hr
  | listed slot => cases hr
  | ended result => rfl

theorem result?_turn {now : Crowd σ} {i : Nat} {c : Caller} (hc : now.callers[i]? = some c)
    (j : Nat) :
    (now.turn i).result? j =
      if j = i then (c.advance now.shared).1.result? else now.result? j := by
  rw [turn_of_some hc, result?]
  split
  · next h =>
    have hi := (List.getElem?_eq_some_iff.mp hc).1
    rw [h, List.getElem?_set_self hi]
    rfl
  · next h =>
    rw [List.getElem?_set_ne (Ne.symm h)]
    rfl

/-- A result is kept. -/
theorem result?_turn_of_some {now : Crowd σ} {i : Nat} {r : Except Fault ArrayId}
    (hr : now.result? i = some r) (j : Nat) : (now.turn j).result? i = some r := by
  rcases hc : now.callers[j]? with _ | c
  · rw [turn_of_none hc]
    exact hr
  · rw [result?_turn hc]
    split
    · next h =>
      rw [h, result?, hc] at hr
      rw [advance_of_result hr]
      exact hr
    · exact hr

end Results

variable {σ : Type} [ParameterServer σ] [Scripted σ] {start now : Crowd (Watched σ)}
  {v : Watched σ} {p : Parameter}

theorem Steady.origin (h : Steady start now) {i : Nat} {c : Caller}
    (hc : now.callers[i]? = some c) :
    ∃ d, start.callers[i]? = some d ∧ d.parameter = c.parameter ∧ d.device = c.device := by
  have hasks : (now.callers.map Caller.asks)[i]? = some c.asks := by
    rw [List.getElem?_map, hc]
    rfl
  rw [h.asks, List.getElem?_map] at hasks
  obtain ⟨d, hd, hsame⟩ := Option.map_eq_some_iff.mp hasks
  exact ⟨d, hd, congrArg Prod.fst hsame, congrArg Prod.snd hsame⟩

/-- A turn gives at most one call a result. -/
theorem Results.turn {P Q : Nat → Device → Except Fault ArrayId → Prop}
    (h : Results start now p P) (hsteady : Steady start now) {i : Nat} {c : Caller}
    (hc : now.callers[i]? = some c) (hold : ∀ j device r, P j device r → Q j device r)
    (hnew : c.parameter = p → ∀ r, c.result? = none →
      (c.advance now.shared).1.result? = some r → Q i c.device r) :
    Results start (now.turn i) p Q := by
  intro j d r hd hp hr
  rw [result?_turn hc] at hr
  split at hr
  · next hj =>
    obtain ⟨d', hd', hparameter, hdevice⟩ := hsteady.origin hc
    obtain rfl : d' = d := Option.some.inj (hd'.symm.trans (hj ▸ hd))
    rcases hresult : c.result? with _ | r'
    · rw [hdevice, hj]
      exact hnew (hparameter.symm.trans hp) r hresult hr
    · have hsame : now.result? j = some r := by
        rw [advance_of_result hresult] at hr
        rw [hj, result?, hc]
        exact hr
      exact hold j d'.device r (h j d' r hd hp hsame)
  · exact hold j d.device r (h j d r hd hp hr)

/-! ## Verdicts -/

/-- What has come of a parameter that one of the calls has placed, and of all calls for it.  It is
the outlook of the start: nothing that is done for other parameters counts. -/
inductive Verdict (start now : Crowd (Watched σ)) (v : Watched σ) (p : Parameter) (i : Nat) :
    Prop where
  /-- The server got one init call for each slot, and every call gets the array of its slot. -/
  | placed {c : Caller} {slot : Nat} {a : ArrayId} {all : List ArrayId} :
    start.callers[i]? = some c → c.parameter = p →
    start.shared.1.registry.slotOf c.device = .ok slot → p.array = some a →
    Placement start.shared.1 start.shared.2.pool now.shared.2.pool c.device slot a all →
    outlook v start.shared p = .ok () →
    Since p.id start.shared now.shared (.replicate all.length (registered p.id all)) →
    now.shared.1.find? p.id = some ⟨p.requiresGradient.truthy, all, true, false⟩ →
    Results start now p (fun _ device r => ∃ slot b,
      start.shared.1.registry.slotOf device = .ok slot ∧ all[slot]? = some b ∧ r = .ok b) →
    Verdict start now v p i
  /-- The call gets the fault, and the others get that the parameter is placed in part. -/
  | failed {c : Caller} {slot : Nat} {arrays : List ArrayId} {fault : Fault}
      {calls : List (Call × Except Fault Unit)} :
    start.callers[i]? = some c → c.parameter = p →
    start.shared.1.registry.slotOf c.device = .ok slot →
    Placing p c.device slot start.shared.1 start.shared.2.pool now.shared.2.pool arrays calls
      (.error fault) →
    outlook v start.shared p = .error fault →
    Since p.id start.shared now.shared calls →
    now.shared.1.find? p.id = some ⟨p.requiresGradient.truthy, arrays, false, true⟩ →
    now.result? i = some (.error fault) →
    Results start now p (fun j _ r => j ≠ i → r = .error (.partlyPlaced p.id)) →
    Verdict start now v p i

/-- How far the calls for a parameter have come, by the calls that have placed its replicas. -/
inductive Phase (start now : Crowd (Watched σ)) (v : Watched σ) (p : Parameter) :
    List Nat → Prop where
  | waiting : (∀ e, now.shared.1.find? p.id = some e → e = .waiting p.requiresGradient.truthy) →
    Since p.id start.shared now.shared [] → Results start now p (fun _ _ _ => False) →
    Phase start now v p []
  | settled {i : Nat} : Verdict start now v p i → Phase start now v p [i]

theorem Verdict.exists_entry {i : Nat} (h : Verdict start now v p i) :
    ∃ e, now.shared.1.find? p.id = some e ∧ (e.failed = true ∨ e.materialized = true) := by
  cases h with
  | placed _ _ _ _ _ _ _ hfind _ => exact ⟨_, hfind, .inr rfl⟩
  | failed _ _ _ _ _ _ hfind _ _ => exact ⟨_, hfind, .inl rfl⟩

section Kept

variable (hsteady : Steady start now) {i : Nat} {c : Caller} (hc : now.callers[i]? = some c)

include hsteady hc

/-- A turn that does not place the replicas of a parameter makes no call for it. -/
theorem since_turn {calls : List (Call × Except Fault Unit)}
    (h : Since p.id start.shared now.shared calls) (hno : now.placing? i ≠ some p.id) :
    Since p.id start.shared (now.turn i).shared calls := by
  obtain ⟨made, hworked, hquiet⟩ := (hsteady.turned hc).worked hsteady.regular.server
  have hsince := h.work hworked
  rw [turn_of_some hc]
  split at hsince
  · next hid =>
    rw [hquiet (not_isPlacing hc (hid ▸ hno)), List.append_nil] at hsince
    exact hsince
  · rw [List.append_nil] at hsince
    exact hsince

theorem Verdict.turn {j : Nat} (h : Verdict start now v p j) :
    now.placing? i ≠ some p.id ∧ Verdict start (now.turn i) v p j := by
  obtain ⟨e, hfind, he⟩ := h.exists_entry
  have hno : now.placing? i ≠ some p.id := by
    rw [placing?_of_some hc]
    split
    · next hplacing =>
      intro hid
      rw [← Option.some.inj hid] at hfind
      rw [isPlacing_of_entry hfind he] at hplacing
      cases hplacing
    · nofun
  refine ⟨hno, ?_⟩
  have hturned := hsteady.turned hc
  have hext : now.shared.2.pool.Extends (now.turn i).shared.2.pool := by
    obtain ⟨made, hworked, -⟩ := hturned.worked hsteady.regular.server
    rw [turn_of_some hc]
    exact hworked.pool
  have hsound := hsteady.regular.sound
  have hlater : (now.turn i).shared.1.find? p.id = some e := by
    rw [turn_of_some hc]
    exact (hturned.onward hsteady.regular).settled hfind he
  -- A call for the parameter that ends in this turn is answered from the entry.
  have hanswer : c.parameter = p → ∀ r, c.result? = none →
      (c.advance now.shared).1.result? = some r →
      ∃ slot, start.shared.1.registry.slotOf c.device = .ok slot ∧ r = e.answer p.id slot := by
    rintro rfl r hrunning hr
    obtain ⟨slot, e', hstage, hfind', -, hres⟩ :=
      hturned.ends hrunning (isPlacing_of_entry hfind he) hr
    obtain rfl := Option.some.inj (hfind'.symm.trans hfind)
    obtain ⟨calls, hsince⟩ := hsteady.since c.parameter.id
    have hslot := ((hsteady.sane c (List.mem_of_getElem? hc)).listed slot hstage).1
    rw [hsince.registry] at hslot
    exact ⟨slot, hslot, hres⟩
  cases h with
  | @placed d slot a all hd hp hslot ha hplacement houtlook hsince hentry hresults =>
    obtain rfl := Option.some.inj (hentry.symm.trans hfind)
    refine .placed hd hp hslot ha (hplacement.extends hext hsound) houtlook
      (since_turn hsteady hc hsince hno) hlater ?_
    apply hresults.turn hsteady hc fun _ _ _ hr => hr
    intro hparameter r hrunning hr
    obtain ⟨slot', hslot', hres⟩ := hanswer hparameter r hrunning hr
    obtain ⟨b, hb⟩ := hplacement.exists_array hslot'
    refine ⟨slot', b, hslot', hb, ?_⟩
    rw [hres, Entry.answer, if_neg Bool.false_ne_true]
    dsimp only
    rw [hb]
    rfl
  | @failed d slot arrays fault calls hd hp hslot hplacing houtlook hsince hentry hown hresults =>
    obtain rfl := Option.some.inj (hentry.symm.trans hfind)
    refine .failed hd hp hslot (hplacing.extends hext hsound) houtlook
      (since_turn hsteady hc hsince hno) hlater (result?_turn_of_some hown i) ?_
    apply hresults.turn hsteady hc fun _ _ _ hr => hr
    intro hparameter r hrunning hr _
    obtain ⟨slot', -, hres⟩ := hanswer hparameter r hrunning hr
    rw [hres, Entry.answer, if_pos rfl]

/-- A parameter whose entry is missing or waits still does after a turn that does not place it. -/
theorem waiting_turn (hsame : c.parameter.id = p.id → c.parameter = p)
    (hwaits : ∀ e, now.shared.1.find? p.id = some e → e = .waiting p.requiresGradient.truthy)
    (hsince : Since p.id start.shared now.shared [])
    (hresults : Results start now p fun _ _ _ => False) (hno : now.placing? i ≠ some p.id) :
    Phase start (now.turn i) v p [] := by
  have hturned := hsteady.turned hc
  refine .waiting ?_ (since_turn hsteady hc hsince hno) ?_
  · intro e hfind
    rw [turn_of_some hc] at hfind
    by_cases hid : c.parameter.id = p.id
    · obtain rfl := hsame hid
      rcases hturned.quiet (not_isPlacing hc hno) with hstate | hstate
      · rw [hstate] at hfind
        exact hwaits e hfind
      · rw [hstate, find?_ensured] at hfind
        split at hfind
        · exact (Option.some.inj hfind).symm
        · exact hwaits e hfind
    · obtain ⟨made, hworked, -⟩ := hturned.worked hsteady.regular.server
      rw [hworked.others p.id (Ne.symm hid)] at hfind
      exact hwaits e hfind
  · apply hresults.turn hsteady hc fun _ _ _ hr => hr
    rintro rfl r hrunning hr
    obtain ⟨slot, e, -, hfind, he, -⟩ := hturned.ends hrunning (not_isPlacing hc hno) hr
    rw [hwaits e hfind] at he
    rcases he with he | he
    · cases he
    · cases he

/-- The turn that places the replicas of a parameter gives the verdict. -/
theorem verdict_of_placing (hstart : start.Ready v)
    (hwaits : ∀ e, now.shared.1.find? c.parameter.id = some e →
      e = .waiting c.parameter.requiresGradient.truthy)
    (hsince : Since c.parameter.id start.shared now.shared [])
    (hresults : Results start now c.parameter fun _ _ _ => False)
    (hplacing : c.isPlacing now.shared.1 = true) :
    Verdict start (now.turn i) v c.parameter i := by
  obtain ⟨d, hd, hparameter, hdevice⟩ := hsteady.origin hc
  have harray := hstart.array d (List.mem_of_getElem? hd)
  rw [hparameter] at harray
  have hsound := hstart.consistent.sound
  obtain ⟨slot, trainable, w, arrays, calls, hstage, hw, hfind, hplace, hworked, hentry, hres⟩ :=
    (hsteady.turned hc).places hplacing
  obtain rfl := (Entry.mk.inj (hwaits _ hfind)).1
  have hslot := ((hsteady.sane c (List.mem_of_getElem? hc)).listed slot hstage).1
  have hshared : (now.turn i).shared = (c.advance now.shared).2 := by rw [turn_of_some hc]
  have hown : (now.turn i).result? i = (c.advance now.shared).1.result? := by
    rw [result?_turn hc, if_pos rfl]
  have hcalls := hsince.work hworked
  have hfirst := hplace.since hsince hsound harray
  rw [hsince.outlook hstart.server hw hsound harray] at hfirst hentry hres
  rw [if_pos rfl, List.nil_append, ← hshared] at hcalls
  rw [hsince.registry, ← hdevice] at hslot
  rw [← hdevice, ← hshared] at hfirst
  rw [← hshared] at hentry
  rw [← hown] at hres
  -- No other call for the parameter has ended.
  have honly : ∀ Q : Nat → Device → Except Fault ArrayId → Prop,
      (∀ r, (now.turn i).result? i = some r → Q i c.device r) →
      Results start (now.turn i) c.parameter Q := by
    intro Q hQ
    refine hresults.turn hsteady hc (fun _ _ _ hr => hr.elim) ?_
    intro _ r _ hr
    exact hQ r (hown.trans hr)
  rcases houtlook : outlook v start.shared c.parameter with fault | ⟨⟩
  · rw [houtlook] at hfirst hentry hres
    refine .failed hd hparameter hslot hfirst houtlook hcalls hentry hres ?_
    exact honly _ fun _ _ hne => absurd rfl hne
  · rw [houtlook] at hfirst hentry hres
    cases hfirst with
    | @asked a all _ _ _ ha hplacement hregistering =>
      cases hregistering with
      | all =>
        refine .placed hd hparameter hslot ha hplacement houtlook hcalls hentry ?_
        apply honly
        intro r hr
        obtain ⟨b, hb⟩ := hplacement.exists_array hslot
        refine ⟨slot, b, hdevice ▸ hslot, hb, ?_⟩
        rw [hres, hb] at hr
        exact (Option.some.inj hr).symm

end Kept

/-! ## Any order -/

theorem Phase.turn {before : List Nat} (h : Phase start now v p before) (hstart : start.Ready v)
    (hsteady : Steady start now) (hp : ∃ c ∈ start.callers, c.parameter = p) (i : Nat) :
    Phase start (now.turn i) v p
      (before ++ if now.placing? i = some p.id then [i] else []) := by
  rcases hc : now.callers[i]? with _ | c
  · have hno : now.placing? i = none := by
      rw [placing?, hc]
      rfl
    rw [turn_of_none hc, hno, if_neg nofun, List.append_nil]
    exact h
  · have hsame : c.parameter.id = p.id → c.parameter = p := by
      obtain ⟨d, hd, rfl⟩ := hp
      obtain ⟨b, hb, hparameter, -⟩ := hsteady.origin hc
      rw [← hparameter]
      exact hstart.distinct b (List.mem_of_getElem? hb) d hd
    cases h with
    | waiting hwaits hsince hresults =>
      split
      · next hplacing =>
        rw [placing?_of_some hc] at hplacing
        split at hplacing
        · next hdoes =>
          obtain rfl := hsame (Option.some.inj hplacing)
          exact .settled (verdict_of_placing hsteady hc hstart hwaits hsince hresults hdoes)
        · cases hplacing
      · next hno => exact waiting_turn hsteady hc hsame hwaits hsince hresults hno
    | settled hverdict =>
      obtain ⟨hno, hlater⟩ := hverdict.turn hsteady hc
      rw [if_neg hno, List.append_nil]
      exact .settled hlater

theorem Phase.after {before : List Nat} (h : Phase start now v p before)
    (hstart : start.Ready v) (hsteady : Steady start now)
    (hp : ∃ c ∈ start.callers, c.parameter = p) (turns : List Nat) :
    Phase start (now.after turns) v p (before ++ now.placers p.id turns) := by
  induction turns generalizing now before with
  | nil =>
    rw [placers, List.append_nil]
    exact h
  | cons i turns ih =>
    rw [placers, ← List.append_assoc]
    exact ih (h.turn hstart hsteady hp i) (hsteady.turn i)

theorem Ready.waiting (h : start.Ready v) (hnew : start.shared.1.find? p.id = none) :
    Phase start start v p [] := by
  refine .waiting ?_ (.refl p.id h.server) ?_
  · intro e hfind
    rw [hnew] at hfind
    cases hfind
  · intro i c r hc _ hr
    rw [result?, hc] at hr
    simp [Caller.result?, h.begun c (List.mem_of_getElem? hc)] at hr

/-! ## The call that places -/

/-- The first of the calls for a parameter that comes to its third part. -/
def First (start : Crowd (Watched σ)) (p : Parameter) (turns : List Nat) (i : Nat) : Prop :=
  ∃ before later, turns = before ++ i :: later ∧ before.count i = 2 ∧
    ∀ j c, start.callers[j]? = some c → c.parameter = p → before.count j ≤ 2

omit [Scripted σ] in
theorem exists_of_placers {id : String} {turns rest : List Nat} {i : Nat}
    (h : now.placers id turns = i :: rest) :
    ∃ before later, turns = before ++ i :: later ∧ now.placers id before = [] ∧
      (now.after before).placing? i = some id := by
  induction turns generalizing now with
  | nil => cases h
  | cons j turns ih =>
    rw [placers] at h
    split at h
    · next hplacing =>
      obtain rfl : j = i := (List.cons.inj h).1
      exact ⟨[], turns, rfl, rfl, hplacing⟩
    · next hno =>
      obtain ⟨before, later, rfl, hbefore, hplacing⟩ := ih h
      refine ⟨j :: before, later, rfl, ?_, hplacing⟩
      rw [placers, if_neg hno]
      exact hbefore

theorem first_of_placers (hstart : start.Ready v) (hp : ∃ c ∈ start.callers, c.parameter = p)
    (hnew : start.shared.1.find? p.id = none) {turns rest : List Nat} {i : Nat}
    (h : start.placers p.id turns = i :: rest) : First start p turns i := by
  obtain ⟨before, later, hturns, hnone, hplacing⟩ := exists_of_placers h
  have hphase := (hstart.waiting hnew).after hstart hstart.steady hp before
  rw [hnone] at hphase
  refine ⟨before, later, hturns, ?_, ?_⟩
  · rcases hc : (start.after before).callers[i]? with _ | c
    · rw [placing?, hc] at hplacing
      cases hplacing
    · obtain ⟨d, hd, -⟩ := (hstart.steady.after before).origin hc
      obtain ⟨c', hc', hleft⟩ := hstart.left before hd
      obtain rfl := Option.some.inj (hc.symm.trans hc')
      rw [placing?_of_some hc] at hplacing
      split at hplacing
      · next hdoes =>
        rw [Caller.left_of_isPlacing hdoes] at hleft
        omega
      · cases hplacing
  · cases hphase with
    | waiting _ _ hresults =>
      intro j c hc hparameter
      obtain ⟨d, hd, hleft⟩ := hstart.left before hc
      rcases hr : d.result? with _ | r
      · have hrunning : d.stage.left ≠ 0 := by
          rw [ne_eq, ← Caller.isSome_result?, hr]
          exact Bool.false_ne_true
        omega
      · exact (hresults j c r hc hparameter (by rw [result?, hd]; exact hr)).elim

/-! ## Turns aside -/

/-- A turn that places nothing calls nothing. -/
theorem Steady.server_turn (hsteady : Steady start now) {i : Nat} (hno : now.placing? i = none) :
    (now.turn i).shared.1.server = now.shared.1.server := by
  rcases hc : now.callers[i]? with _ | c
  · rw [turn_of_none hc]
  · have hplacing : c.isPlacing now.shared.1 = false := not_isPlacing hc (by rw [hno]; nofun)
    rw [turn_of_some hc]
    rcases (hsteady.turned hc).quiet hplacing with hsame | hsame
    · rw [hsame]
    · rw [hsame]
      exact (ensured_same _ _).2.2

/-- A turn of a call for another parameter leaves the entry alone, and all arrays that there are. -/
theorem Steady.turn_other (hsteady : Steady start now) {i : Nat} {c : Caller}
    (hc : now.callers[i]? = some c) (hother : c.parameter.id ≠ p.id) :
    (now.turn i).shared.1.find? p.id = now.shared.1.find? p.id ∧
      now.shared.2.pool.Extends (now.turn i).shared.2.pool := by
  obtain ⟨made, hworked, -⟩ := (hsteady.turned hc).worked hsteady.regular.server
  rw [turn_of_some hc]
  exact ⟨hworked.others p.id (Ne.symm hother), hworked.pool⟩

/-! ## All calls -/

/-- Exactly one of the calls for a parameter that had no entry places the replicas: the first that
comes to its third part.  All calls for the parameter that get three turns end, with what the
verdict says.  A turn that places nothing calls nothing, and a turn of a call for another parameter
changes nothing that the calls for this one see. -/
theorem placed_by_one (hstart : start.Ready v) (hp : ∃ c ∈ start.callers, c.parameter = p)
    (hnew : start.shared.1.find? p.id = none) {turns : List Nat}
    (hturns : ∀ i c, start.callers[i]? = some c → c.parameter = p → 3 ≤ turns.count i) :
    (∃ i, First start p turns i ∧ start.placers p.id turns = [i] ∧
      Verdict start (start.after turns) v p i) ∧
    (∀ i c, start.callers[i]? = some c → c.parameter = p →
      ((start.after turns).result? i).isSome) ∧
    (∀ before i, (start.after before).placing? i = none →
      ((start.after before).turn i).shared.1.server = (start.after before).shared.1.server) ∧
    ∀ before i c, start.callers[i]? = some c → c.parameter ≠ p →
      ((start.after before).turn i).shared.1.find? p.id =
        (start.after before).shared.1.find? p.id ∧
      (start.after before).shared.2.pool.Extends ((start.after before).turn i).shared.2.pool := by
  have hended : ∀ i c, start.callers[i]? = some c → c.parameter = p →
      ((start.after turns).result? i).isSome := by
    intro i c hc hparameter
    obtain ⟨d, hd, hleft⟩ := hstart.left turns hc
    have hcount := hturns i c hc hparameter
    rw [result?, hd, Option.bind_some, Caller.isSome_result?]
    omega
  refine ⟨?_, hended, fun before i hno => (hstart.steady.after before).server_turn hno, ?_⟩
  · have hphase := (hstart.waiting hnew).after hstart hstart.steady hp turns
    rw [List.nil_append] at hphase
    rcases hplacers : start.placers p.id turns with _ | ⟨i, rest⟩
    · rw [hplacers] at hphase
      cases hphase with
      | waiting _ _ hresults =>
        obtain ⟨c, hmem, hc⟩ := hp
        obtain ⟨i, hi⟩ := List.getElem?_of_mem hmem
        obtain ⟨r, hr⟩ := Option.isSome_iff_exists.mp (hended i c hi hc)
        exact (hresults i c r hi hc hr).elim
    · have hfirst := first_of_placers hstart hp hnew hplacers
      rw [hplacers] at hphase
      cases hphase with
      | settled hverdict => exact ⟨i, hfirst, rfl, hverdict⟩
  · intro before i c hc hother
    have hsteady := hstart.steady.after before
    obtain ⟨d, hd, -⟩ := hstart.left before hc
    apply hsteady.turn_other hd
    obtain ⟨b, hb, hparameter, -⟩ := hsteady.origin hd
    obtain rfl := Option.some.inj (hb.symm.trans hc)
    obtain ⟨e, he, rfl⟩ := hp
    rw [← hparameter]
    exact fun hid => hother (hstart.distinct b (List.mem_of_getElem? hc) e he hid)

/-- Calls for one parameter on the two devices of a store whose server follows a script. -/
def trialCrowd (script : String → Nat → Except Fault Unit) : Crowd (Watched ScriptedServer) where
  callers := [Device.cpu, .gpu].map (.begin trialParameter)
  shared := Move.after trialStart (.setServer (some ⟨.new script, []⟩) [.cpu, .gpu])

theorem ready_trialCrowd (script : String → Nat → Except Fault Unit) :
    (trialCrowd script).Ready ⟨.new script, []⟩ where
  consistent := by
    have hrun : Run (trialStart : Store (Watched ScriptedServer) × Host) _ _ :=
      .snoc (.setServer (some ⟨.new script, []⟩) [.cpu, .gpu]) .nil trivial
    exact hrun.consistent begins_trialStart.consistent.1
  server := rfl
  begun := by
    intro c hc
    obtain ⟨device, -, rfl⟩ := List.mem_map.mp hc
    rfl
  registered := by
    intro c hc
    obtain ⟨device, hdevice, rfl⟩ := List.mem_map.mp hc
    exact hdevice
  array := by
    intro c hc
    obtain ⟨device, -, rfl⟩ := List.mem_map.mp hc
    rintro a ⟨⟩
    exact Pool.has_of_contents? (t := Tensor.zeros .float32 [2]) (by rfl)
  distinct := by
    intro c hc d hd _
    obtain ⟨device, -, rfl⟩ := List.mem_map.mp hc
    obtain ⟨device', -, rfl⟩ := List.mem_map.mp hd
    rfl

/-- The call on the second device is the first to come to its third part. -/
theorem placed_by_one_trial :
    Verdict (trialCrowd fun _ _ => .ok ()) ((trialCrowd fun _ _ => .ok ()).after [0, 1, 1, 0, 1, 0])
      ⟨.new fun _ _ => .ok (), []⟩ trialParameter 1 := by
  have hcount : ∀ i < 2, 3 ≤ [0, 1, 1, 0, 1, 0].count i := by decide
  have hturns : ∀ i c, (trialCrowd fun _ _ => .ok ()).callers[i]? = some c →
      c.parameter = trialParameter → 3 ≤ [0, 1, 1, 0, 1, 0].count i :=
    fun i _ hc _ => hcount i (List.getElem?_eq_some_iff.mp hc).1
  obtain ⟨⟨i, -, hi, hverdict⟩, -⟩ :=
    placed_by_one (ready_trialCrowd _) ⟨_, List.mem_cons_self, rfl⟩ rfl hturns
  have hone : (trialCrowd fun _ _ => .ok ()).placers "weight" [0, 1, 1, 0, 1, 0] = [1] := by
    decide
  obtain rfl : i = 1 := (List.cons.inj (hi.symm.trans hone)).1
  exact hverdict

/-- The same order under a server that refuses its second call. -/
example :
    let refusing := (trialCrowd fun _ number =>
      if number = 1 then .error .initRefused else .ok ()).after [0, 1, 1, 0, 1, 0]
    refusing.result? 0 = some (.error (.partlyPlaced "weight")) ∧
      refusing.result? 1 = some (.error .initRefused) :=
  ⟨rfl, rfl⟩

end DataParallel.Crowd

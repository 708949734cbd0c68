import DataParallel.Proofs.Store.Training

/-!
# Data-parallel training equals plain training

Every step of training keeps `Synced`.  Asking for a parameter copies what the
canonical array holds, and teaches the server the same if it is new to it;
dropping entries and going over to other devices forgets replicas but neither
the canonical array nor the master; and a round takes whatever holds a weight
to the next weight, as plain training does with the sum of the gradients.
-/

namespace DataParallel

open Step

namespace Store

theorem mem_replicas {σ : Type} {s : Store σ} {id : String} {b : ArrayId} :
    b ∈ s.replicas id ↔ ∃ e, s.find? id = some e ∧ b ∈ e.replicas := by
  rw [replicas]
  rcases s.find? id with _ | e
  · simp
  · simp

theorem replicas_settled {σ : Type} (s : Store σ) (p : Parameter) (arrays : List ArrayId)
    (usable : Bool) (server : Option σ) (id : String) :
    (s.settled p arrays usable server).replicas id =
      if id = p.id then arrays else s.replicas id := by
  rw [replicas, find?_settled]
  split
  · rfl
  · rfl

section Steps

variable {weights : List Weight} {o : Optimizer} {start x y : Store LocalServer × Host}
  {rounds : String → List (List Tensor)} {u : Weight} {v : LocalServer} {w : Tensor}

/-! ## Steps that add no replicas -/

theorem Owned.of_subset (h : Owned weights start x) (hready : Ready weights o start)
    (hfind : ∀ id e, y.1.find? id = some e → x.1.find? id = some e)
    (htable : y.2.pool.arrays = x.2.pool.arrays) (hevolves : x.2.Evolves y.2) :
    Owned weights start y := by
  have hmem : ∀ {id b}, b ∈ y.1.replicas id → b ∈ x.1.replicas id := by
    intro id b hb
    obtain ⟨e, he, hbe⟩ := mem_replicas.mp hb
    exact mem_replicas.mpr ⟨e, hfind id e he, hbe⟩
  constructor
  · exact Pool.Evolves.trans h.grown hevolves
  · intro a ha
    rw [Pool.array_congr htable, h.kept a ha]
  · intro id e he
    exact h.known id e (hfind id e he)
  · intro u hu b hb
    rcases h.young u hu b (hmem hb) with hbu | hby
    · exact Or.inl hbu
    · exact Or.inr (hby.evolves (h.grown.sound hready.sound) hevolves)
  · intro u hu v hv hne b hb hc
    exact h.distinct u hu v hv hne b (hmem hb) (hmem hc)

theorem Holds.of_subset (h : Holds u v x w)
    (hfind : ∀ id e, y.1.find? id = some e → x.1.find? id = some e)
    (hcontents : ∀ b, Carries x u b → y.2.pool.contents? b = x.2.pool.contents? b) :
    Holds u v y w where
  dtype := h.dtype
  master := h.master
  canonical := (hcontents u.array (Or.inl rfl)).trans h.canonical
  replicas := by
    intro b hb
    obtain ⟨e, he, hbe⟩ := mem_replicas.mp hb
    have hbx : b ∈ x.1.replicas u.id := mem_replicas.mpr ⟨e, hfind u.id e he, hbe⟩
    rw [hcontents b (Or.inr hbx), h.replicas b hbx]
  placed e he hm := h.placed e (hfind u.id e he) hm

/-- A step keeps everything that drops entries at most and leaves the contents
of the arrays alone that carry weights. -/
theorem Synced.of_subset (h : Synced weights o start rounds x v)
    (hready : Ready weights o start) (hconsistent : Consistent y)
    (hserver : y.1.server = x.1.server)
    (hfind : ∀ id e, y.1.find? id = some e → x.1.find? id = some e)
    (htable : y.2.pool.arrays = x.2.pool.arrays) (hevolves : x.2.Evolves y.2)
    (hcontents : ∀ u ∈ weights, ∀ b, Carries x u b →
      y.2.pool.contents? b = x.2.pool.contents? b) :
    Synced weights o start rounds y v where
  consistent := hconsistent
  server := hserver.trans h.server
  pending := h.pending
  owned := h.owned.of_subset hready hfind htable hevolves
  tracked := by
    intro u hu
    obtain ⟨w, hw⟩ := h.tracked u hu
    exact ⟨w, hw.holds.of_subset hfind (hcontents u hu), hw.trained⟩

theorem Synced.write (h : Synced weights o start rounds x v) (hready : Ready weights o start)
    {id : String} {b g : ArrayId} (hb : b ∈ x.1.replicas id)
    (hg : x.2.pool.gradient? b = some g) (t : Tensor) :
    Synced weights o start rounds
      (x.1, { x.2 with pool := ((Pool.set g t).runFrom x.2.pool).2 }) v := by
  have hevolves : x.2.Evolves { x.2 with pool := ((Pool.set g t).runFrom x.2.pool).2 } :=
    Pool.along_set g t x.2.pool
  have hkeeps : KeepsTable x (x.1, { x.2 with pool := ((Pool.set g t).runFrom x.2.pool).2 }) :=
    ⟨⟨x.1.server, rfl, rfl⟩, hevolves⟩
  obtain ⟨e, he, hbe⟩ := mem_replicas.mp hb
  obtain ⟨u, hu, hid⟩ := h.owned.known id e he
  have hcarries : Carries x u b := by
    right
    rw [hid]
    exact hb
  refine h.of_subset hready (hkeeps.consistent h.consistent) rfl (fun _ _ hfind => hfind) ?_
    hevolves ?_
  · exact Pool.table_set x.2.pool g t
  · intro v hv c hc
    apply Pool.contents?_set_of_ne
    intro d hgd hcd
    exact h.owned.gradient_ne hready hu hv hcarries hc hg hcd hgd

theorem Synced.reset (h : Synced weights o start rounds x v) (hready : Ready weights o start)
    (id : Option String) : Synced weights o start rounds (x.1.reset id, x.2) v := by
  refine h.of_subset hready (h.consistent.reset id) ?_ ?_ rfl (Pool.Evolves.refl _)
    fun _ _ _ _ => rfl
  · rcases id with _ | id
    · rfl
    · rfl
  · intro name e hfind
    rw [find?_reset] at hfind
    split at hfind
    · cases hfind
    · exact hfind

theorem Synced.setServer (h : Synced weights o start rounds x v)
    (hready : Ready weights o start) (devices : List Device) :
    Synced weights o start rounds ((Store.setServer x.1.server devices).runFrom x).2 v := by
  rcases setServer_cases x x.1.server devices with
    ⟨fault, hrun⟩ | ⟨v', r, k, hv', -, hpool, hrun⟩
  · rw [hrun]
    exact h
  · rw [hrun]
    have hsound : k.pool.Sound := by
      rw [hpool]
      exact h.consistent.sound
    refine h.of_subset hready (.of_no_entries hsound (fun hnone => by cases hnone) rfl) hv'.symm
      (fun _ _ hfind => by cases hfind) (by rw [hpool]) ?_ fun _ _ _ _ => by rw [hpool]
    rw [Host.Evolves, hpool]
    exact Pool.Evolves.refl _

/-! ## Asking for a parameter -/

section Placing

variable {p : Parameter} {arrays : List ArrayId} {usable : Bool} {v' : LocalServer} {k : Host}
  {t : Option Tensor}

/-- The canonical array and new copies are added to the table. -/
theorem Owned.settled (h : Owned weights start x) (hready : Ready weights o start)
    (hu : u ∈ weights) (hid : p.id = u.id) (hext : x.2.pool.Extends k.pool)
    (harrays : ∀ b ∈ arrays, b = u.array ∨
      (¬x.2.pool.Has b ∧ k.pool.Young start.2.pool.arrays.size b)) :
    Owned weights start (x.1.settled p arrays usable (some v'), k) := by
  have hp : x.2.pool.Sound := h.grown.sound hready.sound
  -- An array of another weight was there before, and is not the canonical one of this weight.
  have hother : ∀ {w : Weight}, w ∈ weights → w ≠ u → ∀ b ∈ arrays, b ∉ x.1.replicas w.id := by
    intro w hw hne b hb hbw
    rcases harrays b hb with hbu | ⟨hnew, -⟩
    · exact h.ne hready hu hw (Ne.symm hne) (Or.inl hbu) (Or.inr hbw) rfl
    · rcases h.young w hw b hbw with rfl | hby
      · exact hnew (h.grown.has (hready.has hw))
      · exact hnew hby.has
  have hids : ∀ {w : Weight}, w ∈ weights → w.id = p.id → w = u :=
    fun hw hwid => hready.ids _ hw u hu (hwid.trans hid)
  constructor
  · exact Pool.Evolves.trans h.grown hext.evolves
  · intro a ha
    rw [hext.array (h.grown.has ha), h.kept a ha]
  · intro id e hfind
    rw [find?_settled] at hfind
    split at hfind
    · next hname => exact ⟨u, hu, (hname.trans hid).symm⟩
    · exact h.known id e hfind
  · intro w hw b hb
    rw [replicas_settled] at hb
    split at hb
    · next hname =>
      rw [hids hw hname]
      rcases harrays b hb with hbu | ⟨-, hby⟩
      · exact Or.inl hbu
      · exact Or.inr hby
    · rcases h.young w hw b hb with hbw | hby
      · exact Or.inl hbw
      · exact Or.inr (hby.evolves hp hext.evolves)
  · intro w hw w' hw' hne b hb hb'
    rw [replicas_settled] at hb hb'
    split at hb
    · next hname =>
      rw [hids hw hname] at hne
      split at hb'
      · next hname' => exact hne (hids hw' hname').symm
      · exact hother hw' (Ne.symm hne) b hb hb'
    · split at hb'
      · next hname' =>
        rw [hids hw' hname'] at hne
        exact hother hw hne b hb' hb
      · exact h.distinct w hw w' hw' hne b hb hb'

/-- The new arrays hold the weight as well, and so does the master if there was none. -/
theorem Holds.settled (h : Holds u v x w) (hp : x.2.pool.Sound) (hext : x.2.pool.Extends k.pool)
    (hlearns : LocalServer.Learns p.id t v v')
    (ht : ∀ m, p.id = u.id → t = some m → m = w)
    (harrays : p.id = u.id → ∀ b ∈ arrays, k.pool.contents? b = some w)
    (husable : p.id = u.id → usable = true → (v'.get? p.id).isSome ∧ u.array ∈ arrays) :
    Holds u v' (x.1.settled p arrays usable (some v'), k) w := by
  have hmaster : ∀ m, v'.get? u.id = some m → m = w := by
    intro m hm
    by_cases hid : p.id = u.id
    · rw [← hid, hlearns.master] at hm
      rcases hold : v.get? p.id with _ | old
      · rw [hold] at hm
        exact ht m hid hm
      · rw [hold] at hm
        rw [hid] at hold
        exact h.master m (hold.trans hm)
    · rw [hlearns.others u.id (Ne.symm hid)] at hm
      exact h.master m hm
  have hkept : ∀ {b}, x.2.pool.contents? b = some w → k.pool.contents? b = some w :=
    fun hb => (hext.contents? hp (Pool.has_of_contents? hb)).trans hb
  constructor
  · exact h.dtype
  · exact hmaster
  · exact hkept h.canonical
  · intro b hb
    rw [replicas_settled] at hb
    split at hb
    · next hname => exact harrays hname.symm b hb
    · exact hkept (h.replicas b hb)
  · intro e hfind hm
    rw [find?_settled] at hfind
    split at hfind
    · next hname =>
      rw [← Option.some.inj hfind] at hm ⊢
      obtain ⟨hknown, hcanonical⟩ := husable hname.symm hm
      obtain ⟨m, hget⟩ := Option.isSome_iff_exists.mp hknown
      rw [← hname] at hget
      rw [hget, hmaster m hget]
      exact ⟨rfl, hcanonical⟩
    · obtain ⟨hget, hcanonical⟩ := h.placed e hfind hm
      exact ⟨hlearns.get? hget, hcanonical⟩

theorem Synced.settled (h : Synced weights o start rounds x v) (hready : Ready weights o start)
    (hu : u ∈ weights) (hid : p.id = u.id)
    (hconsistent : Consistent (x.1.settled p arrays usable (some v'), k))
    (hext : x.2.pool.Extends k.pool) (hlearns : LocalServer.Learns p.id t v v')
    (ht : ∀ m, t = some m → x.2.pool.contents? u.array = some m)
    (harrays : ∀ b ∈ arrays, k.pool.contents? b = x.2.pool.contents? u.array ∧
      (b = u.array ∨ (¬x.2.pool.Has b ∧ k.pool.Young start.2.pool.arrays.size b)))
    (husable : usable = true → (v'.get? p.id).isSome ∧ u.array ∈ arrays) :
    Synced weights o start rounds (x.1.settled p arrays usable (some v'), k) v' where
  consistent := hconsistent
  server := rfl
  pending id := by
    rw [hlearns.pending]
    exact h.pending id
  owned := h.owned.settled hready hu hid hext fun b hb => (harrays b hb).2
  tracked := by
    intro u' hu'
    obtain ⟨w, hw⟩ := h.tracked u' hu'
    have hsame : p.id = u'.id → x.2.pool.contents? u.array = some w := by
      intro hid'
      rw [hready.ids u hu u' hu' (hid.symm.trans hid')]
      exact hw.holds.canonical
    have hcanonical : p.id = u'.id → u.array = u'.array := by
      intro hid'
      rw [hready.ids u hu u' hu' (hid.symm.trans hid')]
    refine ⟨w, hw.holds.settled h.consistent.sound hext hlearns ?_ ?_ ?_, ?_⟩
    · intro m hid' hm
      exact Option.some.inj ((ht m hm).symm.trans (hsame hid'))
    · intro hid' b hb
      rw [(harrays b hb).1, hsame hid']
    · intro hid' hm
      rw [← hcanonical hid']
      exact husable hm
    · obtain ⟨o', hrun, hagree, hsuits⟩ := hw.trained
      refine ⟨o', hrun, ?_, hsuits⟩
      rw [hlearns.optimizer]
      exact hagree

end Placing

theorem Synced.getValue (h : Synced weights o start rounds x v) (hready : Ready weights o start)
    (hu : u ∈ weights) {p : Parameter} (hid : p.id = u.id) (ha : p.array = some u.array)
    (device : Device) :
    ∃ v', Synced weights o start rounds ((Store.getValue p device).runFrom x).2 v' := by
  have hhas : x.2.pool.Has u.array := h.owned.grown.has (hready.has hu)
  have harray : ∀ a ∈ p.array, x.2.pool.Has a := by
    rw [ha]
    rintro a ⟨⟩
    exact hhas
  have hconsistent := (h.consistent.asked harray device).consistent h.consistent
  rcases getValue_local h.consistent h.server harray device with hsame | ⟨-, htouched⟩
  · rw [hsame]
    exact ⟨v, h⟩
  generalize ((Store.getValue p device).runFrom x).2 = y at hconsistent htouched
  cases htouched with
  | @failed w k hext hlearns =>
    exact ⟨w, h.settled hready hu hid hconsistent hext hlearns (fun _ ht => by cases ht)
      (fun _ hb => by cases hb) fun hm => by cases hm⟩
  | @placed slot a arrays w k hslot ha' hplacement hext hlearns hknown =>
    obtain rfl : u.array = a := Option.some.inj (ha.symm.trans ha')
    refine ⟨w, h.settled hready hu hid hconsistent hext hlearns (fun _ ht => ht) ?_ ?_⟩
    · intro b hb
      refine ⟨hplacement.contents? hext h.consistent.sound hhas hb, ?_⟩
      by_cases hba : b = u.array
      · exact Or.inl hba
      · obtain ⟨i, hi⟩ := List.mem_iff_getElem?.mp hb
        obtain ⟨d, t, -, -, hcopy⟩ := hplacement.copy hi hba
        have hle : start.2.pool.arrays.size ≤ b.index :=
          Nat.le_trans h.owned.grown.arrays_le (Nat.le_of_not_lt hcopy.fresh)
        exact Or.inr ⟨hcopy.fresh, hle, hcopy.has, hcopy.original, hcopy.lone⟩
    · intro _
      have hserver : x.1.server.isSome := by
        rw [h.server]
        rfl
      exact ⟨hknown, List.mem_iff_getElem?.mpr
        ⟨slot, (hplacement.canonical slot).mpr ⟨rfl, Or.inl hserver⟩⟩⟩

/-! ## A round -/

theorem dtype_gradientContents {id : String} {t : Tensor} (hp : x.2.pool.Sound)
    (hreplicas : ∀ b ∈ x.1.replicas id, x.2.pool.contents? b = some t) :
    ∀ grad ∈ gradientContents x id, grad.dtype = t.dtype := by
  intro grad hgrad
  obtain ⟨b, hb, hcontents⟩ := List.mem_filterMap.mp hgrad
  obtain ⟨g, hg, hcontents⟩ := Option.bind_eq_some_iff.mp hcontents
  obtain ⟨k, hk, hgradient⟩ := Pool.gradient?_eq_some.mp hg
  obtain ⟨j, hj⟩ := Pool.exists_holding_of_items? (Pool.contents?_eq_some.mp hcontents)
  apply ItemType.number.inj
  rw [← Pool.dtype_of_contents? hj hcontents, (hp.gradient_like hk hgradient hj).2,
    Pool.dtype_of_contents? hk (hreplicas b hb)]

/-- An array that carries a weight is written for this weight only, and once. -/
theorem Owned.free (h : Owned weights start x) (hready : Ready weights o start)
    (hnames : (x.1.entries.map Prod.fst).Nodup) (hu : u ∈ weights) {b : ArrayId}
    (hb : Carries x u b) :
    ∀ name ∈ x.1.trainable, x.2.pool.Clear b (x.1.replicas name) ∧
      (name ≠ u.id → b ∉ x.1.replicas name) := by
  intro name hname
  obtain ⟨e, hfind, -⟩ := (mem_trainable hnames).mp hname
  obtain ⟨u', hu', rfl⟩ := h.known name e hfind
  refine ⟨h.clear hready hu hu' hb, fun hne hmem => ?_⟩
  have huu' : u ≠ u' := by
    rintro rfl
    exact hne rfl
  exact h.ne hready hu hu' huu' hb (Or.inr hmem) rfl

section Round

variable (h : Synced weights o start rounds x v) (hready : Ready weights o start)
  {v' v'' : LocalServer} (hpushed : Pushed x x.1.trainable v v')
  (hpulled : Pulled x.1.replicas x.1.trainable v' v'' x.2.pool y.2.pool)

include h hready hpulled

theorem Synced.contents_frozen (hu : u ∈ weights) (hfrozen : u.id ∉ x.1.trainable) {b : ArrayId}
    (hb : Carries x u b) : y.2.pool.contents? b = x.2.pool.contents? b := by
  apply hpulled.spared h.consistent.sound
  intro name hname
  obtain ⟨hclear, hout⟩ := h.owned.free hready h.consistent.names hu hb name hname
  refine ⟨hclear, hout ?_⟩
  rintro rfl
  exact hfrozen hname

/-- A round reads the gradients and writes to none of them. -/
theorem Synced.contents_gradient (hu : u ∈ weights) {b g : ArrayId} (hb : Carries x u b)
    (hg : x.2.pool.gradient? b = some g) :
    y.2.pool.contents? g = x.2.pool.contents? g := by
  apply hpulled.spared h.consistent.sound
  intro name hname
  obtain ⟨e, hfind, -⟩ := (mem_trainable h.consistent.names).mp hname
  obtain ⟨u', hu', rfl⟩ := h.owned.known name e hfind
  constructor
  · intro c hc _ d hgd hcd
    exact h.owned.gradient_ne hready hu hu' hb (Or.inr hc) hg hcd hgd
  · intro hmem
    obtain ⟨w, hw⟩ := h.tracked u' hu'
    obtain ⟨d, hbuffer⟩ := Pool.exists_buffer?_of_contents? (hw.holds.replicas g hmem)
    exact h.owned.gradient_ne hready hu hu' hb (Or.inr hmem) hg hbuffer hbuffer

include hpushed

theorem Synced.tracked_frozen (hy : y.1 = { x.1 with server := some v'' }) (hu : u ∈ weights)
    (hfrozen : u.id ∉ x.1.trainable) (hw : Tracked u o rounds v x w) :
    Tracked u o (noted x rounds) v'' y w := by
  obtain ⟨hmaster, hagree, -⟩ := hpulled.other u.id hfrozen
  have hget : v''.get? u.id = v.get? u.id := by
    rw [hmaster, LocalServer.get?, hpushed.masters]
    rfl
  have hfind : ∀ id e, y.1.find? id = some e → x.1.find? id = some e := by
    intro id e hfind
    rw [hy] at hfind
    exact hfind
  have hholds : Holds u v y w := hw.holds.of_subset hfind fun b hb =>
    h.contents_frozen hready hpulled hu hfrozen hb
  constructor
  · refine ⟨hholds.dtype, ?_, hholds.canonical, hholds.replicas, ?_⟩
    · rw [hget]
      exact hholds.master
    · rw [hget]
      exact hholds.placed
  · obtain ⟨o', hrun, hagree', hsuits⟩ := hw.trained
    rw [noted, if_neg hfrozen]
    rw [hpushed.optimizer] at hagree
    exact ⟨o', hrun, hagree'.trans hagree, hsuits⟩

/-- Whatever held the weight holds the next one. -/
theorem Synced.tracked_trainable (hy : y.1 = { x.1 with server := some v'' })
    (hu : u ∈ weights) (htrainable : u.id ∈ x.1.trainable) {e : Entry}
    (hfind : x.1.find? u.id = some e) (hm : e.materialized = true)
    (hw : Tracked u o rounds v x w) : ∃ t, Tracked u o (noted x rounds) v'' y t := by
  obtain ⟨m, t, o₁, hm', hrun, hagree, hmaster, -⟩ := hpulled.own u.id htrainable
  obtain ⟨hget, hcanonical⟩ := hw.holds.placed e hfind hm
  obtain rfl : w = m := by
    rw [LocalServer.get?, hpushed.masters] at hm'
    exact Option.some.inj (hget.symm.trans hm')
  have hgrad : Tensor.sum? (gradientContents x u.id) = .ok (v'.pending.lookup u.id) := by
    have hdue := hpushed.own u.id htrainable
    rw [h.pending u.id, LocalServer.due_none] at hdue
    exact hdue
  have hgraddtype : ∀ g ∈ v'.pending.lookup u.id, g.dtype = .native (.float u.precision) := by
    intro g hg
    rw [hg] at hgrad
    refine Optimizer.dtype_sum? (fun s hs => ?_) hgrad
    rw [dtype_gradientContents h.consistent.sound hw.holds.replicas s hs, hw.holds.dtype]
  obtain ⟨o', hbefore, hagree', hsuits⟩ := hw.trained
  rw [hpushed.optimizer] at hrun
  obtain ⟨o'', hnext, hagree''⟩ := Optimizer.advance_of_agree hagree'.symm hrun
  obtain ⟨hsuits', hdtype⟩ :=
    Optimizer.yields_advance hw.holds.dtype hgraddtype o' t o'' hsuits hnext
  have hcontents : ∀ b ∈ x.1.replicas u.id, y.2.pool.contents? b = some t := by
    intro b hb
    rw [hpulled.contents h.consistent.sound u.id htrainable b hb
      (h.owned.free hready h.consistent.names hu (Or.inr hb)), hw.holds.replicas b hb, hmaster]
    have hcast : t.cast w.dtype = t := by
      rw [hw.holds.dtype, ← hdtype, Tensor.cast_self]
    exact congrArg some hcast
  have hcanonical' : u.array ∈ x.1.replicas u.id := mem_replicas.mpr ⟨e, hfind, hcanonical⟩
  refine ⟨t, ⟨hdtype, ?_, hcontents _ hcanonical', ?_, ?_⟩, o'', ?_, ?_, hsuits'⟩
  · intro m hm
    exact Option.some.inj (hm.symm.trans hmaster)
  · rw [hy]
    exact hcontents
  · intro e' hfind' hm'
    rw [hy] at hfind'
    exact ⟨hmaster, (hw.holds.placed e' hfind' hm').2⟩
  · rw [noted, if_pos htrainable]
    exact Optimizer.train_append hbefore hgrad hnext
  · exact hagree''.symm.trans hagree

end Round

theorem Synced.updateAll (h : Synced weights o start rounds x v)
    (hready : Ready weights o start) (hrun : Store.updateAll.runFrom x = (.ok (), y)) :
    ∃ v', Synced weights o start (noted x rounds) y v' := by
  obtain ⟨hplaced, v', v'', hy, hpushed, hpulled⟩ :=
    updateAll_local h.consistent.names h.server hrun
  have hkeeps := along_updateAll x
  rw [hrun] at hkeeps
  refine ⟨v'', hkeeps.consistent h.consistent, by rw [hy], ?_, ?_, ?_⟩
  · intro id
    by_cases hid : id ∈ x.1.trainable
    · obtain ⟨m, t, o₁, -, -, -, -, hnone⟩ := hpulled.own id hid
      exact hnone
    · rw [(hpulled.other id hid).2.2, hpushed.other id hid]
      exact h.pending id
  · refine h.owned.of_subset hready ?_ hpulled.table hpulled.evolves
    intro id e hfind
    rw [hy] at hfind
    exact hfind
  · intro u hu
    obtain ⟨w, hw⟩ := h.tracked u hu
    by_cases hid : u.id ∈ x.1.trainable
    · obtain ⟨e, hfind, -⟩ := (mem_trainable h.consistent.names).mp hid
      have hm : e.materialized = true := by
        rw [h.consistent.settled hfind, hplaced u.id hid e hfind]
        rfl
      exact h.tracked_trainable hready hpushed hpulled hy hu hid hfind hm hw
    · exact ⟨w, h.tracked_frozen hready hpushed hpulled hy hu hid hw⟩

/-! ## Runs -/

theorem Ready.synced (hready : Ready weights o start) :
    Synced weights o start (fun _ => []) start (.new o) where
  consistent := by
    refine .of_no_entries hready.sound (fun hnone => ?_) hready.entries
    rw [hready.server] at hnone
    cases hnone
  server := hready.server
  pending _ := rfl
  owned := by
    have hnone : ∀ id, start.1.find? id = none := by
      intro id
      rw [find?, hready.entries]
      rfl
    have hempty : ∀ id, start.1.replicas id = [] := by
      intro id
      rw [replicas, hnone]
      rfl
    refine ⟨Pool.Evolves.refl _, fun _ _ => rfl, ?_, ?_, ?_⟩
    · intro id e hfind
      rw [hnone] at hfind
      cases hfind
    · intro u _ b hb
      rw [hempty] at hb
      cases hb
    · intro u _ v _ _ b hb
      rw [hempty] at hb
      cases hb
  tracked := by
    intro u hu
    have hnone : start.1.find? u.id = none := by
      rw [find?, hready.entries]
      rfl
    refine ⟨u.initial, ⟨hready.dtype u hu, fun m hm => (by cases hm), hready.contents u hu, ?_, ?_⟩,
      o, rfl, .refl u.id o, hready.suits u hu⟩
    · intro b hb
      rw [replicas, hnone] at hb
      cases hb
    · intro e hfind
      rw [hnone] at hfind
      cases hfind

/-- Whatever training did, everything that holds a weight holds the weight of plain training. -/
theorem Training.synced (htraining : Training weights start rounds x)
    (hready : Ready weights o start) : ∃ v, Synced weights o start rounds x v := by
  induction htraining with
  | start => exact ⟨_, hready.synced⟩
  | getValue device _ hu hid ha ih =>
    obtain ⟨v, h⟩ := ih
    exact h.getValue hready hu hid ha device
  | write t _ hb hg ih =>
    obtain ⟨v, h⟩ := ih
    exact ⟨v, h.write hready hb hg t⟩
  | updateAll _ hrun ih =>
    obtain ⟨v, h⟩ := ih
    exact h.updateAll hready hrun
  | reset id _ ih =>
    obtain ⟨v, h⟩ := ih
    exact ⟨v, h.reset hready id⟩
  | setServer devices _ ih =>
    obtain ⟨v, h⟩ := ih
    exact ⟨v, h.setServer hready devices⟩

end Steps

/-! ## Trials -/

/-- An optimizer whose settings are whole numbers. -/
def trialOptimizer : Optimizer :=
  { Optimizer.sgd with rule := .sgd (.int 0) (.int 0), rate := .int 1, rescale := .int 1 }

/-- The weight of the trial parameter. -/
def trialWeight : Weight := ⟨"weight", ⟨0⟩, .single, Tensor.zeros .float32 [2]⟩

/-- A store over two devices on the trial host, whose array has a gradient. -/
def trialReady : Store LocalServer × Host :=
  ((setServer (some (.new trialOptimizer)) [.cpu, .gpu]).runFrom (trialStart.1,
    { trialHost with pool := ((Pool.attachGradient ⟨0⟩).runFrom trialHost.pool).2 })).2

theorem ready_trial : Ready [trialWeight] trialOptimizer trialReady := by
  constructor
  · exact Pool.Evolves.trans evolves_trialHost (Pool.along_attachGradient ⟨0⟩ trialHost.pool)
  · rfl
  · rfl
  · intro u hu v hv _
    rw [List.mem_singleton.mp hu, List.mem_singleton.mp hv]
  · intro u hu
    rw [List.mem_singleton.mp hu]
    decide +kernel
  · intro u hu
    rw [List.mem_singleton.mp hu]
    rfl
  · intro u hu v hv hne
    rw [List.mem_singleton.mp hu, List.mem_singleton.mp hv] at hne
    exact absurd rfl hne
  · intro u _
    exact Optimizer.suits_of_state_eq_nil rfl (by decide) u.id u.precision

/-- The state after the first touch. -/
def trialPlaced : Store LocalServer × Host :=
  ((getValue trialParameter .gpu).runFrom trialReady).2

theorem training_trial : Training [trialWeight] trialReady (fun _ => []) trialPlaced :=
  .getValue .gpu .start (List.mem_singleton.mpr rfl) rfl rfl

/-- A round after it. -/
def trialRound : Except Fault Unit × Store LocalServer × Host := updateAll.runFrom trialPlaced

/-- What a round from `x` to `y` leaves, when `rounds` are the gradients of all
rounds up to this one. -/
structure PlainlyTrained (weights : List Weight) (o : Optimizer)
    (rounds : String → List (List Tensor)) (x y : Store LocalServer × Host) : Prop where
  /-- Every trainable parameter in the table has a replica for each device, each of which had a
  gradient, and the master and all replicas are the weight of the loop that keeps one copy. -/
  trainable : ∀ u ∈ weights, ∀ e, y.1.find? u.id = some e → e.trainable = true →
    e.replicas.length = y.1.registry.devices.length ∧
    (gradientContents x u.id).length = e.replicas.length ∧
    ∃ v w o', y.1.server = some v ∧
      (Optimizer.train u.id (rounds u.id) u.initial).runFrom o = (.ok w, o') ∧
      v.get? u.id = some w ∧ ∀ b ∈ e.replicas, y.2.pool.contents? b = some w
  /-- A parameter that is frozen or not in the table keeps its master, its
  canonical array and its replicas. -/
  frozen : ∀ u ∈ weights, (∀ e, y.1.find? u.id = some e → e.trainable = false) →
    (∃ v v', x.1.server = some v ∧ y.1.server = some v' ∧ v'.get? u.id = v.get? u.id) ∧
    ∀ b, Carries y u b → y.2.pool.contents? b = x.2.pool.contents? b
  /-- Arrays keep their gradients, and these keep what they hold. -/
  gradients : ∀ u ∈ weights, ∀ b, Carries y u b → ∀ g, y.2.pool.gradient? b = some g →
    x.2.pool.gradient? b = some g ∧ y.2.pool.contents? g = x.2.pool.contents? g

/-- After any training over any devices, a round that succeeds leaves every
parameter in the table with the weight that plain training gives it. -/
theorem trained_plainly {weights : List Weight} {o : Optimizer}
    {start x y : Store LocalServer × Host} {rounds : String → List (List Tensor)}
    (hready : Ready weights o start) (htraining : Training weights start rounds x)
    (hround : updateAll.runFrom x = (.ok (), y)) :
    PlainlyTrained weights o (noted x rounds) x y := by
  obtain ⟨v, h⟩ := htraining.synced hready
  obtain ⟨v', hsynced⟩ := h.updateAll hready hround
  obtain ⟨hplaced, u₁, v'', hy, hpushed, hpulled⟩ :=
    updateAll_local h.consistent.names h.server hround
  have hcarries : ∀ {u b}, Carries y u b → Carries x u b := by
    intro u b hb
    rw [Carries, hy] at hb
    exact hb
  constructor
  · intro u hu e hfind htrainable
    have hid : u.id ∈ x.1.trainable := by
      rw [hy] at hfind
      exact (mem_trainable h.consistent.names).mpr ⟨e, hfind, htrainable⟩
    have hm : e.materialized = true := by
      have hfailed : e.failed = false := by
        rw [hy] at hfind
        exact hplaced u.id hid e hfind
      rw [hsynced.consistent.settled hfind, hfailed]
      rfl
    obtain ⟨w, hw⟩ := hsynced.tracked u hu
    obtain ⟨o', hrun, -⟩ := hw.trained
    have hreplicas : x.1.replicas u.id = e.replicas := by
      rw [hy] at hfind
      exact congrArg (Option.elim · [] Entry.replicas) hfind
    refine ⟨hsynced.consistent.full hfind hm, ?_, v', w, o', hsynced.server, hrun,
      (hw.holds.placed e hfind hm).1, fun b hb => ?_⟩
    · rw [← hreplicas]
      exact hpushed.full u.id hid
    · exact hw.holds.replicas b (mem_replicas.mpr ⟨e, hfind, hb⟩)
  · intro u hu hfrozen
    have hid : u.id ∉ x.1.trainable := by
      intro hmem
      obtain ⟨e, hfind, htrainable⟩ := (mem_trainable h.consistent.names).mp hmem
      rw [hfrozen e (by rw [hy]; exact hfind)] at htrainable
      cases htrainable
    refine ⟨⟨v, v'', h.server, by rw [hy], ?_⟩, fun b hb => ?_⟩
    · rw [(hpulled.other u.id hid).1, LocalServer.get?, hpushed.masters]
      rfl
    · exact h.contents_frozen hready hpulled hu hid (hcarries hb)
  · intro u hu b hb g hg
    rw [Pool.gradient?_congr hpulled.table] at hg
    exact ⟨hg, h.contents_gradient hready hpulled hu (hcarries hb) hg⟩

theorem trained_plainly_trial :
    ∃ (x y : Store LocalServer × Host) (e : Entry), y.1.find? "weight" = some e ∧
      e.trainable = true ∧ e.replicas = [⟨2⟩, ⟨0⟩] ∧
      PlainlyTrained [trialWeight] trialOptimizer (noted x fun _ => []) x y := by
  have hround : trialRound = (.ok (), trialRound.2) := eq_ok_of_toOption (by decide +kernel)
  have hfind : trialRound.2.1.find? "weight" = some ⟨true, [⟨2⟩, ⟨0⟩], true, false⟩ := by
    decide +kernel
  exact ⟨trialPlaced, trialRound.2, _, hfind, rfl, rfl,
    trained_plainly ready_trial training_trial hround⟩

end Store

end DataParallel

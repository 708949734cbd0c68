import DataParallel.Proofs.Host.Evolution
import DataParallel.Proofs.Pool.Creation
import DataParallel.Proofs.Pool.Overwriting
import DataParallel.Proofs.Record.Header

/-!
# Saving and loading a parameter

What was saved of one parameter is loaded into another one of the same name.  Contents of the
shape of the array that is there are written into it and take the type of its items; all others
come into a new array of the manager, as they were.  Nothing is loaded from a parameter without an
array, and the target stays what it is.
-/

namespace DataParallel

namespace Parameter

open Step

/-- A new array with the contents took the place of what a parameter had. -/
def Renewed (c : Contents) (q q' : Parameter) (h h' : Host) : Prop :=
  ∃ b, q' = { q with array := some b } ∧ ¬h.pool.Has b ∧ h'.pool.items? b = some c

/-- A parameter has taken the contents: its array holds what they are converted to if it has their
shape, and otherwise a new array holds them as they are. -/
structure Reloaded (c : Contents) (q q' : Parameter) (h h' : Host) : Prop where
  kept : ∀ a old, q.array = some a → h.pool.items? a = some old → old.shape = c.shape →
    q' = q ∧ ∃ order, h'.pool.items? a = some (h.conversion.write order old c).1
  renewed : (∀ a old, q.array = some a → h.pool.items? a = some old → old.shape ≠ c.shape) →
    Renewed c q q' h h'

/-- Numbers in an array of numbers are converted to its element type. -/
theorem Reloaded.numbers {t old : Tensor} {q q' : Parameter} {h h' : Host} {a : ArrayId}
    (hreloaded : Reloaded t q q' h h') (harray : q.array = some a)
    (hold : h.pool.contents? a = some old) (hshape : old.shape = t.shape) :
    q' = q ∧ h'.pool.contents? a = some (t.cast old.dtype) := by
  obtain ⟨hsame, order, hcontents⟩ :=
    hreloaded.kept a old harray (Pool.contents?_eq_some.mp hold) hshape
  rw [h.conversion.write_numbers] at hcontents
  exact ⟨hsame, Pool.contents?_eq_some.mpr hcontents⟩

/-- The array is open, and contents of its shape can be converted to its items. -/
def Takes (h : Host) (a : ArrayId) (c : Contents) : Prop :=
  ∃ old, h.pool.items? a = some old ∧
    (old.shape = c.shape → ∀ order, (h.conversion.write order old c).2 = .ok ())

/-- An open array of numbers takes all numbers. -/
theorem takes_of_contents? {h : Host} {a : ArrayId} (ha : (h.pool.contents? a).isSome)
    (t : Tensor) : Takes h a t := by
  obtain ⟨old, hold⟩ := Option.isSome_iff_exists.mp ha
  refine ⟨old, Pool.contents?_eq_some.mp hold, fun _ order => ?_⟩
  rw [h.conversion.write_numbers]

section Taking

variable {q : Parameter} {h : Host} {m : ManagerId} {c : Contents}

theorem runFrom_second_onPool {α : Type} {step : Step Pool α} {result : Except Fault α} {p : Pool}
    (hstep : step.runFrom h.pool = (result, p)) :
    (Step.second (Host.onPool step) : Step (Parameter × Host) α).runFrom (q, h) =
      (result, q, { h with pool := p }) := by
  rw [runFrom_second, Host.onPool, runFrom_within, hstep]

theorem runFrom_second_overwrite {a : ArrayId} {result : Except Fault Unit} {p : Pool}
    (hwrite : (Pool.overwrite h.conversion a c).runFrom h.pool = (result, p)) :
    (Step.second (Host.overwrite a c) : Step (Parameter × Host) Unit).runFrom (q, h) =
      (result, q, { h with pool := p }) := by
  have hhost : (Host.overwrite a c).runFrom h =
      (Host.onPool (Pool.overwrite h.conversion a c)).runFrom h := by
    rw [Host.overwrite, runFrom_bind_of_ok (runFrom_get _)]
  rw [runFrom_second, hhost, Host.onPool, runFrom_within, hwrite]

theorem adopt_renews (hsound : h.pool.Sound) (hopen : (h.pool.manager m).isOpen = true) :
    ∃ q' h', (adopt m c).runFrom (q, h) = (.ok (), q', h') ∧ Renewed c q q' h h' := by
  have hcreate : (Pool.create m (.ok c)).runFrom h.pool =
      (.ok h.pool.nextArray, h.pool.created m .unset c) :=
    Pool.runFrom_create hopen
  have hsound' : (h.pool.created m .unset c).Sound := Pool.extends_created.sound hsound
  have hfresh : ¬h.pool.Has h.pool.nextArray := Nat.lt_irrefl _
  rw [adopt, runFrom_bind_of_ok (runFrom_second_onPool hcreate),
    runFrom_bind_of_ok (runFrom_get _)]
  by_cases htracked : q.requiresGradient.truthy = true
  · have hattach := runFrom_second_onPool (q := q)
      (h := { h with pool := h.pool.created m .unset c })
      (Pool.runFrom_attachGradient Pool.holding_created_next)
    rw [if_pos htracked, runFrom_bind_of_ok hattach, runFrom_modify]
    refine ⟨_, _, rfl, h.pool.nextArray, rfl, hfresh, ?_⟩
    have hsame := Pool.items?_tracked_self hsound' Pool.holding_created_next
    exact hsame.trans Pool.items?_created_next
  · rw [if_neg htracked]
    exact ⟨_, _, rfl, h.pool.nextArray, rfl, hfresh, Pool.items?_created_next⟩

theorem accept_nothing (harray : q.array = none) :
    (accept m c).runFrom (q, h) = (adopt m c).runFrom (q, h) := by
  rw [accept, runFrom_bind_of_ok (runFrom_get _), harray]

section Array

variable {a : ArrayId} (harray : q.array = some a)

include harray

/-- An array that is closed cannot be compared with the contents. -/
theorem accept_closed (hclosed : h.pool.items? a = none) :
    (accept m c).runFrom (q, h) = (.error .arrayClosed, q, h) := by
  have hitems := runFrom_second_onPool (q := q) (Pool.runFrom_items_closed hclosed)
  rw [accept, runFrom_bind_of_ok (runFrom_get _), harray]
  dsimp only
  rw [runFrom_bind_of_error hitems]

variable {old : Contents} (hold : h.pool.items? a = some old)

include hold

theorem accept_into (hshape : old.shape = c.shape) :
    (accept m c).runFrom (q, h) =
      (Step.second (Host.overwrite a c) : Step (Parameter × Host) Unit).runFrom (q, h) := by
  have hitems := runFrom_second_onPool (q := q) (Pool.runFrom_items hold)
  rw [accept, runFrom_bind_of_ok (runFrom_get _), harray]
  dsimp only
  rw [runFrom_bind_of_ok hitems, if_pos hshape]

/-- Contents of the shape of the array are converted to its items. -/
theorem accept_same_shape (hsound : h.pool.Sound) (hshape : old.shape = c.shape) :
    ∃ k, (h.pool.array a).holding = some k ∧
      let r := h.conversion.write (h.pool.buffer k.buffer).order old c
      (accept m c).runFrom (q, h) = (r.2, q, { h with pool := h.pool.converted k.buffer r.1 }) ∧
        (h.pool.converted k.buffer r.1).items? a = some r.1 := by
  obtain ⟨k, hk⟩ := Pool.exists_holding_of_items? hold
  have hown := hsound.shape_of_items? hk hold
  have hwrite := runFrom_second_overwrite (q := q)
    (Pool.runFrom_overwrite h.conversion hk hold (hshape.symm.trans hown))
  refine ⟨k, hk, (accept_into harray hold hshape).trans hwrite, ?_⟩
  apply Pool.items?_converted_self hsound hk
  rw [h.conversion.shape_write _ _ _ hshape.symm, hown]

theorem accept_other_shape (hshape : old.shape ≠ c.shape) :
    (accept m c).runFrom (q, h) = (adopt m c).runFrom ({ q with array := none }, h) := by
  have hitems := runFrom_second_onPool (q := q) (Pool.runFrom_items hold)
  rw [accept, runFrom_bind_of_ok (runFrom_get _), harray]
  dsimp only
  rw [runFrom_bind_of_ok hitems, if_neg hshape, runFrom_bind_of_ok (runFrom_modify _ _)]

end Array

/-- An open manager takes all contents that can be converted into a parameter whose array is
open. -/
theorem accept_reloads (hsound : h.pool.Sound) (hopen : (h.pool.manager m).isOpen = true)
    (htarget : ∀ a, q.array = some a → Takes h a c) :
    ∃ q' h', (accept m c).runFrom (q, h) = (.ok (), q', h') ∧ Reloaded c q q' h h' := by
  rcases harray : q.array with _ | a
  · obtain ⟨q', h', hadopt, hrenewed⟩ := adopt_renews (q := q) (c := c) hsound hopen
    refine ⟨q', h', (accept_nothing harray).trans hadopt, ?_⟩
    constructor
    · intro a old ha
      rw [harray] at ha
      cases ha
    · exact fun _ => hrenewed
  · obtain ⟨old, hold, hconverts⟩ := htarget a harray
    have honly : ∀ b u, q.array = some b → h.pool.items? b = some u → b = a ∧ u = old := by
      intro b u hb hu
      obtain rfl : a = b := Option.some.inj (harray.symm.trans hb)
      exact ⟨rfl, Option.some.inj (hu.symm.trans hold)⟩
    by_cases hshape : old.shape = c.shape
    · obtain ⟨k, -, haccept, hitems⟩ := accept_same_shape (m := m) harray hold hsound hshape
      rw [hconverts hshape] at haccept
      refine ⟨q, _, haccept, ?_⟩
      constructor
      · intro b u hb hu _
        obtain ⟨rfl, rfl⟩ := honly b u hb hu
        exact ⟨rfl, _, hitems⟩
      · intro hne
        exact absurd hshape (hne a old harray hold)
    · obtain ⟨q', h', hadopt, hrenewed⟩ :=
        adopt_renews (q := { q with array := none }) (c := c) hsound hopen
      refine ⟨q', h', (accept_other_shape harray hold hshape).trans hadopt, ?_⟩
      constructor
      · intro b u hb hu hsame
        obtain ⟨rfl, rfl⟩ := honly b u hb hu
        exact absurd hsame hshape
      · exact fun _ => hrenewed

theorem Reloaded.isSetUp {q' : Parameter} {h' : Host} (hreloaded : Reloaded c q q' h h') :
    q'.isSetUp = true := by
  by_cases hsame : ∃ a old, q.array = some a ∧ h.pool.items? a = some old ∧ old.shape = c.shape
  · obtain ⟨a, old, ha, hold, hshape⟩ := hsame
    rw [(hreloaded.kept a old ha hold hshape).1, Parameter.isSetUp, ha]
    rfl
  · have hrenewed : Renewed c q q' h h' := by
      apply hreloaded.renewed
      intro a old ha hold hshape
      exact hsame ⟨a, old, ha, hold, hshape⟩
    obtain ⟨b, hb, -⟩ := hrenewed
    rw [hb]
    rfl

end Taking

/-! ## What is on the stream -/

section Stream

variable {q : Parameter} {h : Host} {m : ManagerId} {rest : Stream}

theorem runFrom_readByte (atEnd : Fault) (b : UInt8) (bs : Stream) :
    (Step.first (readByte atEnd) : Step (Stream × Parameter × Host) UInt8).runFrom (b :: bs, q, h) =
      (.ok b, bs, q, h) :=
  rfl

/-- The mark of a parameter without an array ends the loading. -/
theorem load_unset :
    (load m).runFrom (version :: 0 :: rest, q, h) = (.ok (), rest, q, h) := by
  rw [load, runFrom_bind_of_ok (runFrom_readByte _ version _), if_neg (not_not_intro rfl),
    runFrom_bind_of_ok (runFrom_readByte _ 0 _), if_pos rfl]
  exact runFrom_pure _ _

/-- After the mark of an array comes a record, whose contents are taken. -/
theorem load_record {record : Stream} {name : String} {c : Contents} (hname : q.name = .text name)
    (hread : Record.readContents.runFrom (record ++ rest) = (.ok (.text name, c), rest)) :
    (load m).runFrom (version :: 1 :: (record ++ rest), q, h) =
      (Step.second (accept m c) : Step (Stream × Parameter × Host) Unit).runFrom (rest, q, h) := by
  have hrecord : (Step.first Record.readContents : Step (Stream × Parameter × Host) _).runFrom
      (record ++ rest, q, h) = (.ok (.text name, c), rest, q, h) := by
    rw [runFrom_first, hread]
  have hsame : (!(Value.text name).same q.name) = false := by
    rw [hname, Value.same]
    simp
  rw [load, runFrom_bind_of_ok (runFrom_readByte _ version _), if_neg (not_not_intro rfl),
    runFrom_bind_of_ok (runFrom_readByte _ 1 _), if_neg (by decide), runFrom_bind_of_ok hrecord,
    runFrom_bind_of_ok (runFrom_get _)]
  simp only [hsame, Bool.false_eq_true, ↓reduceIte]

end Stream

theorem save_unset {p : Parameter} {pool : Pool} (harray : p.array = none) :
    p.save pool = .ok [version, 0] := by
  rw [save, harray]

theorem save_record {p : Parameter} {pool : Pool} {a : ArrayId} {t : Tensor} {record : List UInt8}
    (harray : p.array = some a) (ht : pool.contents? a = some t)
    (hrecord : Record.write p.name t = .ok record) :
    p.save pool = .ok (version :: 1 :: record) := by
  have hbody : Record.writeBody p.name (Contents.body t) = .ok record := hrecord
  simp only [save, harray, Pool.contents?_eq_some.mp ht, hbody]
  rfl

/-! ## Loading what was saved -/

/-- The contents of an array are recorded, and taken from the record whatever is behind it. -/
theorem load_recorded {p q : Parameter} {pool : Pool} {h : Host} {m : ManagerId} {name : String}
    {a : ArrayId} {t : Tensor} (hp : p.name = .text name) (hq : q.name = .text name)
    (harray : p.array = some a) (ht : pool.contents? a = some t)
    (hrecordable : Record.Recordable name t) (hsound : h.pool.Sound)
    (hopen : (h.pool.manager m).isOpen = true)
    (htarget : ∀ b, q.array = some b → Takes h b t.ranked) :
    ∃ saved q' h', p.save pool = .ok saved ∧ Reloaded t.ranked q q' h h' ∧
      ∀ rest, (load m).runFrom (saved ++ rest, q, h) = (.ok (), rest, q', h') := by
  obtain ⟨record, hwrite, hread⟩ := hrecordable.exists_record
  rw [← hp] at hwrite
  obtain ⟨q', h', haccept, hreloaded⟩ := accept_reloads (c := t.ranked) hsound hopen htarget
  refine ⟨version :: 1 :: record, q', h', save_record harray ht hwrite, hreloaded, fun rest => ?_⟩
  exact (load_record hq (hread rest)).trans (by rw [runFrom_second, haccept])

/-- What comes of loading into `q` what was saved of `p`: the target is set up if the source or
the target was, a source without an array leaves the target alone, and the contents of an array
with dimensions are taken as they are. -/
structure LoadedFrom (p : Parameter) (pool : Pool) (q q' : Parameter) (h h' : Host) : Prop where
  setUp : q'.isSetUp = (p.isSetUp || q.isSetUp)
  unset : p.array = none → q' = q ∧ h' = h
  taken : ∀ a t, p.array = some a → pool.contents? a = some t → t.shape ≠ [] →
    Reloaded t q q' h h'

/-- What was saved of a parameter, whose array is open and can be recorded, is loaded into every
parameter of its name, whose array is open and takes numbers, under an open manager.  Recorded are
numbers of half, single and double precision among the floats; long ones are carried, and left out
here. -/
theorem load_saved {p q : Parameter} {pool : Pool} {h : Host} {m : ManagerId} {name : String}
    (hp : p.name = .text name) (hq : q.name = .text name)
    (hsource : ∀ a, p.array = some a → ∃ t, pool.contents? a = some t ∧ Record.Recordable name t)
    (htarget : ∀ a, q.array = some a → ∀ t : Tensor, Takes h a t)
    (hreached : Host.empty.Evolves h) (hopen : (h.pool.manager m).isOpen = true) (rest : Stream) :
    ∃ saved, p.save pool = .ok saved ∧ ∃ q' h',
      (load m).runFrom (saved ++ rest, q, h) = (.ok (), rest, q', h') ∧
        LoadedFrom p pool q q' h h' := by
  have hsound := Host.sound_of_reached hreached
  rcases harray : p.array with _ | a
  · refine ⟨[version, 0], save_unset harray, q, h, load_unset, ?_⟩
    constructor
    · rw [isSetUp, isSetUp, harray]
      rfl
    · exact fun _ => ⟨rfl, rfl⟩
    · intro a t ha
      rw [harray] at ha
      cases ha
  · obtain ⟨t, ht, hrecordable⟩ := hsource a harray
    obtain ⟨record, hwrite, hread⟩ := hrecordable.exists_record
    rw [← hp] at hwrite
    obtain ⟨q', h', haccept, hreloaded⟩ :=
      accept_reloads (c := t.ranked) hsound hopen fun b hb => htarget b hb t.ranked
    refine ⟨version :: 1 :: record, save_record harray ht hwrite, q', h', ?_, ?_⟩
    · exact (load_record hq (hread rest)).trans (by rw [runFrom_second, haccept])
    · constructor
      · rw [hreloaded.isSetUp, isSetUp, harray]
        rfl
      · intro hnone
        rw [harray] at hnone
        cases hnone
      · intro b u hb hu hshape
        obtain rfl : a = b := Option.some.inj (harray.symm.trans hb)
        obtain rfl : t = u := Option.some.inj (ht.symm.trans hu)
        rwa [t.ranked_of_ne hshape] at hreloaded

/-! ## A trial -/

/-- A parameter with a new array of the contents, or without an array. -/
def furnished (m : ManagerId) (contents : Option Tensor) (h : Host) : Parameter × Host :=
  match contents with
  | none => (new "trial" (.text "weight"), h)
  | some t => ((adopt m t).runFrom (new "trial" (.text "weight"), h)).2

/-- A host with one manager. -/
def trialHost : Host := ((Host.onPool Pool.newManager).runFrom Host.empty).2

/-- Two parameters of one name, on a host with one manager. -/
def trialPair (source target : Option Tensor) : Parameter × Parameter × Host :=
  let (p, h) := furnished ⟨0⟩ source trialHost
  let (q, h) := furnished ⟨0⟩ target h
  (p, q, h)

/-- What the target holds after it has loaded what was saved of the source. -/
def exchanged (source target : Option Tensor) : Option (Option Tensor) :=
  let (p, q, h) := trialPair source target
  match p.save h.pool with
  | .error _ => none
  | .ok saved =>
    match (load ⟨0⟩).runFrom (saved, q, h) with
    | (.ok (), _, q', h') => some (q'.array.bind h'.pool.contents?)
    | (.error _, _) => none

theorem evolves_furnished (m : ManagerId) (contents : Option Tensor) (h : Host) :
    h.Evolves (furnished m contents h).2 := by
  cases contents with
  | none => exact Std.Refl.refl h
  | some t => exact along_adopt m t (new "trial" (.text "weight"), h)

theorem reached_trialHost : Host.empty.Evolves trialHost :=
  Host.along_onPool (Pool.along_newManager .unset) Host.empty

theorem reached_trialPair (source target : Option Tensor) :
    Host.empty.Evolves (trialPair source target).2.2 := by
  have hfirst := evolves_furnished ⟨0⟩ source trialHost
  have hsecond := evolves_furnished ⟨0⟩ target (furnished ⟨0⟩ source trialHost).2
  exact (reached_trialHost.trans hfirst).trans hsecond

/-- A pair of floats. -/
def pair : Tensor := .ones .float32 [2]

theorem recordable_pair : Record.Recordable "weight" pair :=
  .of_short (by decide) (by decide) (by decide)

/-- The pair is saved, and the target holds a pair of longer floats. -/
def lengthened : Parameter × Parameter × Host := trialPair (some pair) (some (.zeros .float64 [2]))

theorem load_saved_lengthened :
    ∃ saved, lengthened.1.save lengthened.2.2.pool = .ok saved ∧ ∃ h',
      (load ⟨0⟩).runFrom (saved ++ [0x2A], lengthened.2) = (.ok (), [0x2A], lengthened.2.1, h') ∧
        h'.pool.contents? ⟨2⟩ = some (.ones .float64 [2]) := by
  have hsource : lengthened.1.array = some ⟨0⟩ := by decide +kernel
  have hpair : lengthened.2.2.pool.contents? ⟨0⟩ = some pair := by decide +kernel
  have htarget : lengthened.2.1.array = some ⟨2⟩ := by decide +kernel
  have hold : lengthened.2.2.pool.contents? ⟨2⟩ = some (.zeros .float64 [2]) := by decide +kernel
  have hopen : (lengthened.2.2.pool.manager ⟨0⟩).isOpen = true := by decide +kernel
  have hrecordable : ∀ a, lengthened.1.array = some a →
      ∃ t, lengthened.2.2.pool.contents? a = some t ∧ Record.Recordable "weight" t := by
    intro a ha
    obtain rfl : (⟨0⟩ : ArrayId) = a := Option.some.inj (hsource.symm.trans ha)
    exact ⟨pair, hpair, recordable_pair⟩
  have hopened : ∀ a, lengthened.2.1.array = some a → ∀ t : Tensor, Takes lengthened.2.2 a t := by
    intro a ha
    obtain rfl : (⟨2⟩ : ArrayId) = a := Option.some.inj (htarget.symm.trans ha)
    exact takes_of_contents? (Option.isSome_of_eq_some hold)
  obtain ⟨saved, hsaved, q', h', hrun, hloaded⟩ :=
    load_saved rfl rfl hrecordable hopened (reached_trialPair _ _) hopen [0x2A]
  obtain ⟨rfl, hcontents⟩ :=
    (hloaded.taken ⟨0⟩ pair hsource hpair (by decide)).numbers htarget hold rfl
  have hones : pair.cast .float64 = .ones .float64 [2] := by decide +kernel
  rw [Tensor.zeros, Tensor.fill, hones] at hcontents
  exact ⟨saved, hsaved, h', hrun, hcontents⟩

/-- A target with an array stays set up when the source had none, it keeps its element type if it
has the shape of the source, and a single number comes back as a row of one. -/
theorem not_restored :
    exchanged none (some (.zeros .float32 [2])) = some (some (.zeros .float32 [2])) ∧
    exchanged (some pair) (some (.zeros .float64 [2])) = some (some (.ones .float64 [2])) ∧
    exchanged (some (.ones .float32 [])) none = some (some (.ones .float32 [1])) := by
  refine ⟨?_, ?_, ?_⟩
  · decide +kernel
  · decide +kernel
  · decide +kernel

end Parameter

end DataParallel

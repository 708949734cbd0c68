import DataParallel.Proofs.Parameter.InitialShape
import DataParallel.Proofs.Pool.Creation
import DataParallel.Proofs.Pool.Overwriting
import DataParallel.Proofs.Store.Consistent

/-!
# Serving a parameter of one shape

The arrays that a store keeps for a parameter are the array of the parameter and copies of it, so
they are all of one shape as long as the parameter keeps it.  Whether a store can serve the
parameter at all is up to its server, unless the arrays are there already or there is no server.
-/

namespace DataParallel

open Step

/-! ## Arrays that fit -/

/-- Contents of a shape, with so many items of their type as can be addressed. -/
structure Contents.OfShape (s : Shape) (c : Contents) : Prop where
  shape : c.shape = s
  itemSize_pos : 0 < c.itemType.size
  addressable : s.addressable c.itemType.size = true

theorem Tensor.OfShape.contents {s : Shape} {t : Tensor} (h : t.OfShape s) :
    Contents.OfShape s t :=
  ⟨h.shape, t.dtype.element.size_pos, h.addressable⟩

namespace Contents.OfShape

variable {count n : Nat} {s : Shape} {c : Contents}

theorem congr {d : Contents} (h : c.OfShape s) (hshape : d.shape = c.shape)
    (htype : d.itemType = c.itemType) : d.OfShape s := by
  refine ⟨hshape.trans h.shape, ?_, ?_⟩
  · rw [htype]
    exact h.itemSize_pos
  · rw [htype]
    exact h.addressable

theorem fits (h : c.OfShape s) : Shape.Fits c.itemType.size s :=
  .of_addressable h.itemSize_pos h.addressable

theorem count_lt (h : c.OfShape [count, n]) : count < 2 ^ 63 :=
  h.fits.dimension_lt List.mem_cons_self

theorem size_lt (h : c.OfShape [count, n]) : n < 2 ^ 63 :=
  h.fits.dimension_lt (List.mem_cons_of_mem _ List.mem_cons_self)

end Contents.OfShape

/-- An array of the pool whose contents, as long as it is open, are of a shape. -/
structure Pool.Fitting (s : Shape) (p : Pool) (a : ArrayId) : Prop where
  has : p.Has a
  fits : ∀ c, p.items? a = some c → c.OfShape s

theorem Pool.Fitting.evolves {s : Shape} {p q : Pool} {a : ArrayId} (h : p.Fitting s a)
    (hp : p.Sound) (hpq : p.Evolves q) : q.Fitting s a where
  has := hpq.has h.has
  fits := by
    intro c hc
    obtain ⟨old, hold, htype, hshape⟩ := hpq.exists_items? hp h.has hc
    exact (h.fits old hold).congr hshape.symm htype.symm

theorem Pool.Fitting.of_items? {s : Shape} {p : Pool} {a : ArrayId} {c : Contents}
    (hc : p.items? a = some c) (h : c.OfShape s) : p.Fitting s a where
  has := Pool.has_of_items? hc
  fits := by
    intro d hd
    obtain rfl : c = d := Option.some.inj (hc.symm.trans hd)
    exact h

namespace Store

variable {σ : Type}

/-- The array of a parameter fits, and so do the replicas of it that a store keeps. -/
structure Fitted (shape : Shape) (p : Parameter) (x : Store σ × Host) : Prop where
  canonical : ∀ a ∈ p.array, x.2.pool.Fitting shape a
  replicas : ∀ e, x.1.find? p.id = some e → e.materialized = true →
    ∀ b ∈ e.replicas, x.2.pool.Fitting shape b

/-- What a placement gives to a device is the array itself or a copy of it. -/
theorem Fitted.placement {shape : Shape} {p : Parameter} {x : Store σ × Host}
    (hx : Fitted shape p x) (hp : x.2.pool.Sound) {q : Pool} {device : Device} {slot : Nat}
    {a b : ArrayId} {arrays : List ArrayId} (ha : p.array = some a)
    (hplacement : Placement x.1 x.2.pool q device slot a arrays) (hext : x.2.pool.Extends q)
    (hb : b ∈ arrays) : q.Fitting shape b := by
  by_cases hself : b = a
  · rw [hself]
    exact (hx.canonical a ha).evolves hp hext.evolves
  · obtain ⟨i, hi⟩ := List.mem_iff_getElem?.mp hb
    obtain ⟨d, t, -, ht, hcopy⟩ := hplacement.copy hi hself
    refine ⟨hcopy.has, fun u hu => ?_⟩
    obtain rfl : t = u := Option.some.inj (hcopy.contents.symm.trans hu)
    exact (hx.canonical a ha).fits t ht

/-- Asking for a parameter keeps the arrays of `p` fitting, and if it was asked for `p`, the array
that is given fits too. -/
theorem Fitted.asked {shape : Shape} {p q : Parameter} {device : Device} {x : Store σ × Host}
    {r : Except Fault ArrayId × Store σ × Host} (hx : Fitted shape p x) (hc : Consistent x)
    (hasked : Asked q device x r) (hsame : q.id = p.id → q = p) :
    Fitted shape p r.2 ∧
      ∀ b, q = p → r.1 = .ok b → r.2.2.pool.Fitting shape b := by
  have hevolves := hasked.evolves
  have hcanonical : ∀ a ∈ p.array, r.2.2.pool.Fitting shape a :=
    fun a ha => (hx.canonical a ha).evolves hc.sound hevolves
  have hold : ∀ e, x.1.find? p.id = some e → e.materialized = true →
      ∀ b ∈ e.replicas, r.2.2.pool.Fitting shape b :=
    fun e he hm b hb => (hx.replicas e he hm b hb).evolves hc.sound hevolves
  cases hasked with
  | unknown _ => exact ⟨hx, fun b _ hb => by cases hb⟩
  | refused _ _ _ => exact ⟨hx, fun b _ hb => by cases hb⟩
  | @found slot e c _ hfind hm hget =>
    refine ⟨hx, fun b hq hb => ?_⟩
    obtain rfl : c = b := Except.ok.inj hb
    rw [hq] at hfind
    exact hx.replicas e hfind hm c (List.mem_of_getElem? hget)
  | @broken slot arrays server k fault _ hnone _ _ =>
    refine ⟨⟨hcanonical, fun e he hm => ?_⟩, fun b _ hb => by cases hb⟩
    rw [find?_settled] at he
    split at he
    · rw [← Option.some.inj he] at hm
      cases hm
    · exact hold e he hm
  | @placed slot a c arrays server pool k _ hnone _ ha hplacement hext hpool hget =>
    have harrays : q = p → ∀ b ∈ arrays, k.pool.Fitting shape b := by
      rintro rfl b hb
      exact (hx.placement hc.sound ha hplacement hext hb).evolves (hext.sound hc.sound) hpool
    refine ⟨⟨hcanonical, fun e he hm => ?_⟩, fun b hq hb => ?_⟩
    · rw [find?_settled] at he
      split at he
      · next hid =>
        rw [← Option.some.inj he]
        exact harrays (hsame hid.symm)
      · exact hold e he hm
    · obtain rfl : c = b := Except.ok.inj hb
      exact harrays hq c (List.mem_of_getElem? hget)

/-! ## Stores that serve a parameter -/

/-- What was given is given again, and nothing changes. -/
theorem Asked.again [ParameterServer σ] {p : Parameter} {device : Device} {x y : Store σ × Host}
    {b : ArrayId} (h : Asked p device x (.ok b, y)) (hx : Consistent x) (k : Host) :
    (getValue p device).runFrom (y.1, k) = (.ok b, y.1, k) := by
  cases h with
  | found hslot hfind hm hget =>
    have hfailed := hx.settled hfind
    rw [hm, eq_comm, Bool.not_eq_true'] at hfailed
    exact getValue_of_materialized hslot hfind hfailed hm hget
  | @placed slot a c arrays server pool l hslot _ _ _ _ _ _ hget =>
    have hfind := find?_settled x.1 p arrays true server p.id
    rw [if_pos rfl] at hfind
    exact getValue_of_materialized (s := x.1.settled p arrays true server) hslot hfind rfl rfl hget

section Serving

variable [ParameterServer σ] {x : Store σ × Host} {p : Parameter} {device : Device} {slot : Nat}
  (hx : Consistent x) (hslot : x.1.registry.slotOf device = .ok slot)

include hx hslot

end Serving

end Store

end DataParallel

import DataParallel.Proofs.Pool.Copy

/-!
# Arrays that share no memory

An array reaches its own buffer and the buffer of its gradient.  Two arrays
that reach no common buffer cannot be changed through each other.  A family of
copies of one array, with the array itself or without it, stays apart whatever
happens: the copies are younger than the array, share their buffers with
nothing older, and are gradients of nothing.
-/

namespace DataParallel

namespace Pool

/-- The buffers that are read and written through an array and its gradient. -/
def reach (p : Pool) (a : ArrayId) : List BufferId :=
  (p.buffer? a).toList ++ ((p.gradient? a).bind p.buffer?).toList

/-- No buffer is reached from both arrays. -/
def Apart (p : Pool) (a b : ArrayId) : Prop := ∀ c ∈ p.reach a, c ∉ p.reach b

theorem Apart.symm {p : Pool} {a b : ArrayId} (h : p.Apart a b) : p.Apart b a :=
  fun c hb ha => h c ha hb

/-- An array and its gradient. -/
def OwnOrGradient (p : Pool) (a x : ArrayId) : Prop := x = a ∨ p.gradient? a = some x

theorem mem_reach {p : Pool} {a : ArrayId} {c : BufferId} :
    c ∈ p.reach a ↔ ∃ x, p.OwnOrGradient a x ∧ p.buffer? x = some c := by
  rw [reach, List.mem_append, Option.mem_toList, Option.mem_toList]
  constructor
  · rintro (hc | hc)
    · exact ⟨a, Or.inl rfl, hc⟩
    · obtain ⟨g, hg, hc⟩ := Option.bind_eq_some_iff.mp hc
      exact ⟨g, Or.inr hg, hc⟩
  · rintro ⟨x, rfl | hx, hc⟩
    · exact Or.inl hc
    · exact Or.inr (Option.bind_eq_some_iff.mpr ⟨x, hx, hc⟩)

theorem Apart.buffer?_ne {p : Pool} {a b x y : ArrayId} (h : p.Apart a b)
    (hx : p.OwnOrGradient a x) (hy : p.OwnOrGradient b y) {c : BufferId}
    (hc : p.buffer? x = some c) : p.buffer? y ≠ some c :=
  fun hd => h c (mem_reach.mpr ⟨x, hx, hc⟩) (mem_reach.mpr ⟨y, hy, hd⟩)

/-- Writing to an array or to its gradient leaves the arrays alone that are
apart from it, and their gradients. -/
theorem Apart.contents?_set {p : Pool} {a b x y : ArrayId} (h : p.Apart a b)
    (hx : p.OwnOrGradient a x) (hy : p.OwnOrGradient b y) (t : Tensor) :
    ((set x t).runFrom p).2.contents? y = p.contents? y :=
  contents?_set_of_ne fun _ hc => h.buffer?_ne hx hy hc

theorem Original.buffer?_ne {p : Pool} {u v : ArrayId} {c : BufferId} (hv : p.Original v)
    (hlt : u.index < v.index) (hu : p.buffer? u = some c) : p.buffer? v ≠ some c := by
  intro heq
  obtain ⟨h, hh, hc⟩ := Option.map_eq_some_iff.mp hu
  obtain ⟨k, hk, hd⟩ := Option.map_eq_some_iff.mp heq
  exact hv u h k hlt hh hk (hc.trans hd.symm)

/-! ## Copies of one array -/

/-- Copies of an array, with the array itself or without it. -/
structure Family (p : Pool) (a : ArrayId) (arrays : List ArrayId) : Prop where
  nodup : arrays.Nodup
  canonical : p.Has a
  copy : ∀ c ∈ arrays, c ≠ a →
    a.index < c.index ∧ p.Has c ∧ p.Original c ∧ p.Lone c

theorem Family.evolves {p q : Pool} {a : ArrayId} {arrays : List ArrayId}
    (h : p.Family a arrays) (hp : p.Sound) (hpq : p.Evolves q) : q.Family a arrays where
  nodup := h.nodup
  canonical := hpq.has h.canonical
  copy := by
    intro c hc hne
    obtain ⟨hlt, has, horiginal, hlone⟩ := h.copy c hc hne
    exact ⟨hlt, hpq.has has, horiginal.evolves has hpq, hlone.evolves hp has hpq⟩

section Family

variable {p : Pool} {a : ArrayId} {arrays : List ArrayId}

/-- What is reached from a family, other than the array of which the copies
were made, shares its buffer with nothing older. -/
theorem Family.original (h : p.Family a arrays) (hp : p.Sound) {x u : ArrayId}
    (hx : x ∈ arrays) (hu : p.OwnOrGradient x u) :
    u = a ∨ (a.index < u.index ∧ p.Original u) := by
  have hle : a.index ≤ x.index := by
    by_cases hxa : x = a
    · exact Nat.le_of_eq (congrArg ArrayId.index hxa.symm)
    · exact Nat.le_of_lt (h.copy x hx hxa).1
  rcases hu with rfl | hu
  · by_cases hua : u = a
    · exact Or.inl hua
    · obtain ⟨hlt, -, horiginal, -⟩ := h.copy u hx hua
      exact Or.inr ⟨hlt, horiginal⟩
  · obtain ⟨k, hk, hgradient⟩ := gradient?_eq_some.mp hu
    exact Or.inr ⟨Nat.lt_of_le_of_lt hle (hp.gradient_lt hk hgradient).1,
      hp.gradient_original hk hgradient⟩

theorem Family.own_ne_gradient (h : p.Family a arrays) (hp : p.Sound) {x y g : ArrayId}
    (hx : x ∈ arrays) (hy : y ∈ arrays) (hne : x ≠ y) (hg : p.gradient? y = some g) :
    x ≠ g := by
  rintro rfl
  by_cases hxa : x = a
  · subst hxa
    obtain ⟨k, hk, hgradient⟩ := gradient?_eq_some.mp hg
    have hlt := (hp.gradient_lt hk hgradient).1
    exact Nat.lt_asymm hlt (h.copy y hy (Ne.symm hne)).1
  · exact (h.copy x hx hxa).2.2.2 y hg

/-- Nothing is reached from two members of a family. -/
theorem Family.reach_ne (h : p.Family a arrays) (hp : p.Sound) {x y u v : ArrayId}
    (hx : x ∈ arrays) (hy : y ∈ arrays) (hne : x ≠ y) (hu : p.OwnOrGradient x u)
    (hv : p.OwnOrGradient y v) : u ≠ v := by
  rcases hu with rfl | hu
  · rcases hv with rfl | hv
    · exact hne
    · exact h.own_ne_gradient hp hx hy hne hv
  · rcases hv with rfl | hv
    · exact Ne.symm (h.own_ne_gradient hp hy hx (Ne.symm hne) hu)
    · rintro rfl
      obtain ⟨k, hk, hxu⟩ := gradient?_eq_some.mp hu
      obtain ⟨j, hj, hyu⟩ := gradient?_eq_some.mp hv
      exact hne (hp.gradient_inj hk hj hxu hyu)

/-- The members of a family are apart. -/
theorem Family.apart (h : p.Family a arrays) (hp : p.Sound) {x y : ArrayId}
    (hx : x ∈ arrays) (hy : y ∈ arrays) (hne : x ≠ y) : p.Apart x y := by
  -- Of two arrays that are reached, the younger one is no canonical array, so
  -- that its buffer is not that of the older one.
  have hyounger : ∀ {u v : ArrayId} {c}, (u = a ∨ (a.index < u.index ∧ p.Original u)) →
      (v = a ∨ (a.index < v.index ∧ p.Original v)) → u.index < v.index →
      p.buffer? u = some c → p.buffer? v ≠ some c := by
    rintro u v c hu (rfl | ⟨-, hv⟩) hlt huc
    · rcases hu with rfl | ⟨hu, -⟩
      · exact absurd hlt (Nat.lt_irrefl _)
      · exact absurd hlt (Nat.lt_asymm hu)
    · exact hv.buffer?_ne hlt huc
  intro c hcx hcy
  obtain ⟨u, hu, huc⟩ := mem_reach.mp hcx
  obtain ⟨v, hv, hvc⟩ := mem_reach.mp hcy
  have huv := h.reach_ne hp hx hy hne hu hv
  have hu' := h.original hp hx hu
  have hv' := h.original hp hy hv
  rcases Nat.lt_trichotomy u.index v.index with hlt | heq | hlt
  · exact hyounger hu' hv' hlt huc hvc
  · exact huv (congrArg ArrayId.mk heq)
  · exact hyounger hv' hu' hlt hvc huc

end Family

/-! ## Arrays that came later -/

/-- The array is not among the first `n`, is no gradient, and shares its buffer
with no older one. -/
structure Young (p : Pool) (n : Nat) (c : ArrayId) : Prop where
  le : n ≤ c.index
  has : p.Has c
  original : p.Original c
  lone : p.Lone c

theorem Young.evolves {p q : Pool} {n : Nat} {c : ArrayId} (h : p.Young n c) (hp : p.Sound)
    (hpq : p.Evolves q) : q.Young n c :=
  ⟨h.le, hpq.has h.has, h.original.evolves h.has hpq, h.lone.evolves hp h.has hpq⟩

/-- A young array is apart from every array among the first ones and from
every other young one. -/
theorem Young.apart {p : Pool} {n : Nat} {a b c : ArrayId} (hp : p.Sound) (ha : p.Has a)
    (han : a.index < n) (hb : b = a ∨ p.Young n b) (hc : c = a ∨ p.Young n c) (hne : b ≠ c) :
    p.Apart b c := by
  have hcopy : ∀ {d : ArrayId}, d = a ∨ p.Young n d → d ≠ a →
      a.index < d.index ∧ p.Has d ∧ p.Original d ∧ p.Lone d := by
    rintro d (hd | hd) hda
    · exact absurd hd hda
    · exact ⟨Nat.lt_of_lt_of_le han hd.le, hd.has, hd.original, hd.lone⟩
  have hfamily : p.Family a [b, c] := by
    refine ⟨by simpa using hne, ha, fun d hd hda => ?_⟩
    simp only [List.mem_cons, List.not_mem_nil, or_false] at hd
    rcases hd with rfl | rfl
    · exact hcopy hb hda
    · exact hcopy hc hda
  exact hfamily.apart hp (by simp) (by simp) hne

/-- An array does not share its buffer with its own gradient. -/
theorem Sound.buffer?_gradient_ne {p : Pool} (hp : p.Sound) {a g : ArrayId}
    (hg : p.gradient? a = some g) {c : BufferId} (hc : p.buffer? a = some c) :
    p.buffer? g ≠ some c := by
  obtain ⟨h, hh, hgradient⟩ := gradient?_eq_some.mp hg
  exact (hp.gradient_original hh hgradient).buffer?_ne (hp.gradient_lt hh hgradient).1 hc

/-- What is reached from an array is settled by the states of it and of its gradient. -/
theorem reach_congr {p q : Pool} {a : ArrayId} (ha : q.array a = p.array a)
    (hg : ∀ g, p.gradient? a = some g → q.array g = p.array g) : q.reach a = p.reach a := by
  have hown : q.buffer? a = p.buffer? a := by rw [buffer?, buffer?, ha]
  have hgradient : q.gradient? a = p.gradient? a := by rw [gradient?, gradient?, ha]
  rw [reach, reach, hown, hgradient]
  rcases hag : p.gradient? a with _ | g
  · rfl
  · have hsame : q.buffer? g = p.buffer? g := by rw [buffer?, buffer?, hg g hag]
    simp only [Option.bind_some, hsame]

end Pool

end DataParallel

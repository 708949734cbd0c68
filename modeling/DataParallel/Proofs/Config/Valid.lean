import DataParallel.Config

/-!
# What validation asks for

A configuration is validated if and only if its optimizer and its strategy are known by name, its
scale is a positive number (or none at all), no two of its devices are equal as values, and its
level for loggers has a rank.  Nothing is asked of what a device spec says.
-/

namespace DataParallel

namespace Value

variable {α : Type}

/-- A key that is new comes last; for a known one the number of entries stays. -/
theorem insert_cases (key : Value) (a : α) (es : List (Value × α)) :
    (insert key a es).length = es.length ∨
      (∀ e ∈ es, key.same e.1 = false) ∧ insert key a es = es ++ [(key, a)] := by
  induction es with
  | nil => exact Or.inr ⟨nofun, rfl⟩
  | cons e es ih =>
    obtain ⟨k, b⟩ := e
    cases hkey : key.same k with
    | true =>
      left
      rw [insert, if_pos hkey]
      rfl
    | false =>
      have hnot : ¬key.same k = true := by simp [hkey]
      rw [insert, if_neg hnot]
      rcases ih with hlength | ⟨hnew, hinsert⟩
      · left
        rw [List.length_cons, hlength, List.length_cons]
      · right
        rw [hinsert]
        exact ⟨List.forall_mem_cons.mpr ⟨hkey, hnew⟩, rfl⟩

theorem length_foldl_insert_le (vs : List Value) (seen : List (Value × Unit)) :
    (vs.foldl (fun seen v => insert v () seen) seen).length ≤ seen.length + vs.length := by
  induction vs generalizing seen with
  | nil => exact Nat.le_refl _
  | cons v vs ih =>
    have hrest := ih (insert v () seen)
    rw [List.foldl_cons, List.length_cons]
    rcases insert_cases v () seen with hlength | ⟨-, hinsert⟩
    · omega
    · have hlength := congrArg List.length hinsert
      rw [List.length_append, List.length_singleton] at hlength
      omega

/-- If there are as many entries as values, each of the values was new. -/
theorem new_of_length_foldl_insert {vs : List Value} {seen : List (Value × Unit)}
    (h : (vs.foldl (fun seen v => insert v () seen) seen).length = seen.length + vs.length) :
    (∀ v ∈ vs, ∀ e ∈ seen, v.same e.1 = false) ∧ vs.Pairwise fun v w => w.same v = false := by
  induction vs generalizing seen with
  | nil => exact ⟨nofun, .nil⟩
  | cons v vs ih =>
    have hle := length_foldl_insert_le vs (insert v () seen)
    rw [List.foldl_cons, List.length_cons] at h
    rcases insert_cases v () seen with hlength | ⟨hnew, hinsert⟩
    · omega
    · rw [hinsert] at h
      obtain ⟨hrest, hpairs⟩ := @ih (seen ++ [(v, ())])
        (by
          rw [h, List.length_append, List.length_singleton]
          omega)
      refine ⟨List.forall_mem_cons.mpr ⟨hnew, fun w hw e he => ?_⟩, List.pairwise_cons.mpr
        ⟨fun w hw => ?_, hpairs⟩⟩
      · exact hrest w hw e (List.mem_append_left _ he)
      · exact hrest w hw (v, ()) (List.mem_append_right _ (List.mem_singleton_self _))

end Value

namespace Config

variable {c : Config}

/-- What validation asks for. -/
structure IsValid (c : Config) : Prop where
  optimizer : isOneOf ["sgd", "adam"] c.optimizer = true
  strategy : isOneOf (Strategy.all.map Strategy.name) c.initStrategy = true
  scale : ∃ s, c.initScale.scalar? = some s ∧ (s.isNegative || s.isZero) = false
  devices : ∃ specs, c.devices.items = .ok specs ∧ distinct specs = .ok true
  level : ∃ rank, c.level = .ok (.int rank)

theorem pairwise_of_distinct {vs : List Value} (h : distinct vs = .ok true) :
    vs.Pairwise fun v w => w.same v = false := by
  rw [distinct] at h
  split at h
  · have hlength := beq_iff_eq.mp (Except.ok.inj h)
    exact (Value.new_of_length_foldl_insert (by rw [hlength, List.length_nil, Nat.zero_add])).2
  · cases h

theorem validate_eq_ok_iff : c.validate = .ok () ↔ c.IsValid := by
  constructor
  · intro h
    cases hoptimizer : isOneOf ["sgd", "adam"] c.optimizer with
    | false =>
      simp only [validate, hoptimizer] at h
      cases h
    | true =>
    cases hstrategy : isOneOf (Strategy.all.map Strategy.name) c.initStrategy with
    | false =>
      simp only [validate, hoptimizer, hstrategy] at h
      cases h
    | true =>
    rcases hscale : c.initScale.scalar? with _ | s
    · simp only [validate, hoptimizer, hstrategy, hscale] at h
      cases h
    cases hsign : s.isNegative || s.isZero with
    | true =>
      simp only [validate, hoptimizer, hstrategy, hscale, hsign] at h
      cases h
    | false =>
    simp only [validate, hoptimizer, hstrategy, hscale, hsign, Bool.not_true, Bool.false_eq_true,
      ↓reduceIte] at h
    obtain ⟨specs, hspecs, h⟩ := exists_of_bind_eq_ok h
    obtain ⟨apart, hdistinct, h⟩ := exists_of_bind_eq_ok h
    cases apart with
    | false => cases h
    | true =>
    obtain ⟨level, hlevel, h⟩ := exists_of_bind_eq_ok h
    split at h
    next rank => exact ⟨hoptimizer, hstrategy, ⟨s, hscale, hsign⟩, ⟨specs, hspecs, hdistinct⟩,
      ⟨rank, hlevel⟩⟩
    · cases h
  · rintro ⟨hoptimizer, hstrategy, ⟨s, hscale, hsign⟩, ⟨specs, hspecs, hdistinct⟩, rank, hlevel⟩
    simp only [validate, hoptimizer, hstrategy, hscale, hsign, hspecs, ok_bind, hdistinct, hlevel]
    rfl

end Config

end DataParallel

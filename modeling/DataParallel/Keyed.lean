/-!
# Entries by name

Lists of entries under names, each name once, in the order in which the names came.  They are
read with `List.lookup`.
-/

namespace DataParallel.Keyed

variable {α : Type}

/-- Sets the entry of a name; a new name comes last. -/
def put (name : String) (a : α) : List (String × α) → List (String × α)
  | [] => [(name, a)]
  | (n, b) :: rest => if name = n then (n, a) :: rest else (n, b) :: put name a rest

/-- Changes the entry of a name, if there is one. -/
def change (name : String) (f : α → α) (entries : List (String × α)) : List (String × α) :=
  entries.map fun (n, a) => if n = name then (n, f a) else (n, a)

/-- Drops the entry of a name. -/
def drop (name : String) (entries : List (String × α)) : List (String × α) :=
  entries.filter fun entry => entry.1 != name

theorem lookup_cons_eq (n name : String) (a : α) (rest : List (String × α)) :
    List.lookup n ((name, a) :: rest) = if n = name then some a else rest.lookup n := by
  by_cases h : n = name
  · simp [h]
  · have : (n == name) = false := by simpa using h
    simp [List.lookup_cons, this, h]

theorem lookup_put (name : String) (a : α) (entries : List (String × α)) (n : String) :
    (put name a entries).lookup n = if n = name then some a else entries.lookup n := by
  induction entries with
  | nil => rw [put, lookup_cons_eq]
  | cons entry rest ih =>
    obtain ⟨m, b⟩ := entry
    by_cases h : name = m
    · subst h
      by_cases hn : n = name <;> simp [put, lookup_cons_eq, hn]
    · by_cases hn : n = m
      · subst hn
        simp [put, h, Ne.symm h]
      · simp [put, h, lookup_cons_eq, hn, ih]

theorem mem_put {name : String} {a : α} {entries : List (String × α)} {entry : String × α}
    (h : entry ∈ put name a entries) : entry = (name, a) ∨ entry ∈ entries := by
  induction entries with
  | nil => exact Or.inl (List.mem_singleton.mp h)
  | cons first rest ih =>
    obtain ⟨n, b⟩ := first
    rw [put] at h
    split at h
    · next hname =>
      subst hname
      exact (List.mem_cons.mp h).imp_right (List.mem_cons_of_mem _)
    · rcases List.mem_cons.mp h with rfl | hrest
      · exact Or.inr (List.mem_cons_self ..)
      · exact (ih hrest).imp_right (List.mem_cons_of_mem _)

theorem mem_of_lookup {name : String} {a : α} {entries : List (String × α)}
    (h : entries.lookup name = some a) : (name, a) ∈ entries := by
  obtain ⟨l, r, hl, -⟩ := List.lookup_eq_some_iff.mp h
  rw [hl]
  exact List.mem_append_right _ (List.mem_cons_self ..)

theorem lookup_drop (name : String) (entries : List (String × α)) (n : String) :
    (drop name entries).lookup n = if n = name then none else entries.lookup n := by
  induction entries with
  | nil => simp [drop]
  | cons entry rest ih =>
    obtain ⟨m, b⟩ := entry
    by_cases hm : m = name
    · have hd : drop name ((m, b) :: rest) = drop name rest := by simp [drop, hm]
      rw [hd, ih, lookup_cons_eq]
      by_cases hn : n = name <;> simp [hn, hm]
    · have hd : drop name ((m, b) :: rest) = (m, b) :: drop name rest := by
        simp [drop, hm]
      rw [hd, lookup_cons_eq, lookup_cons_eq, ih]
      by_cases hn : n = m
      · simp [hn, hm]
      · simp [hn]

theorem lookup_change (name : String) (f : α → α) (entries : List (String × α)) (n : String) :
    (change name f entries).lookup n =
      if n = name then (entries.lookup n).map f else entries.lookup n := by
  induction entries with
  | nil => split <;> rfl
  | cons entry rest ih =>
    obtain ⟨m, b⟩ := entry
    rw [change] at ih
    rw [change, List.map_cons]
    by_cases hm : m = name
    · subst hm
      by_cases hn : n = m <;> simp [lookup_cons_eq, hn, ih]
    · by_cases hn : n = m
      · subst hn
        simp [hm]
      · simp [lookup_cons_eq, hm, hn, ih]

/-! ## A part of the names -/

section Filter

variable (keep : String → Bool)

theorem lookup_filter (entries : List (String × α)) {name : String} (h : keep name = true) :
    (entries.filter fun entry => keep entry.1).lookup name = entries.lookup name := by
  induction entries with
  | nil => rfl
  | cons entry rest ih =>
    obtain ⟨m, b⟩ := entry
    rw [lookup_cons_eq]
    by_cases hm : keep m = true
    · rw [List.filter_cons, if_pos hm, lookup_cons_eq, ih]
    · have hne : name ≠ m := by
        rintro rfl
        exact hm h
      rw [List.filter_cons, if_neg hm, ih, if_neg hne]

theorem lookup_filter_eq_none (entries : List (String × α)) {name : String}
    (h : keep name = false) : (entries.filter fun entry => keep entry.1).lookup name = none := by
  rw [List.lookup_eq_none_iff]
  intro entry hentry
  have hkept : keep entry.1 = true := (List.mem_filter.mp hentry).2
  rw [bne_iff_ne]
  rintro rfl
  exact Bool.false_ne_true (h.symm.trans hkept)

theorem filter_put (a : α) (entries : List (String × α)) {name : String} (h : keep name = true) :
    (put name a entries).filter (fun entry => keep entry.1) =
      put name a (entries.filter fun entry => keep entry.1) := by
  induction entries with
  | nil => simp [put, h]
  | cons entry rest ih =>
    obtain ⟨m, b⟩ := entry
    by_cases hname : name = m
    · subst hname
      simp [put, h]
    · by_cases hm : keep m = true
      · simp [put, hname, hm, ih]
      · simp [put, hname, hm, ih]

theorem filter_change (f : α → α) (entries : List (String × α)) (name : String) :
    (change name f entries).filter (fun entry => keep entry.1) =
      change name f (entries.filter fun entry => keep entry.1) := by
  rw [change, change, List.filter_map]
  have hsame : (fun entry : String × α => keep entry.1) ∘
      (fun entry : String × α => match entry with
        | (n, a) => if n = name then (n, f a) else (n, a)) = fun entry => keep entry.1 := by
    funext ⟨n, a⟩
    by_cases hn : n = name <;> simp [hn]
  rw [hsame]

end Filter

/-- A new name comes last. -/
theorem put_of_lookup_eq_none {name : String} {entries : List (String × α)}
    (h : entries.lookup name = none) (a : α) : put name a entries = entries ++ [(name, a)] := by
  induction entries with
  | nil => rfl
  | cons entry rest ih =>
    obtain ⟨m, b⟩ := entry
    rw [lookup_cons_eq] at h
    by_cases hm : name = m
    · simp [hm] at h
    · rw [if_neg hm] at h
      rw [put, if_neg hm, ih h, List.cons_append]

/-- Nothing changes if an entry is set to what it is. -/
theorem put_of_lookup_eq_some {name : String} {a : α} {entries : List (String × α)}
    (h : entries.lookup name = some a) : put name a entries = entries := by
  induction entries with
  | nil => cases h
  | cons entry rest ih =>
    obtain ⟨m, b⟩ := entry
    rw [lookup_cons_eq] at h
    by_cases hm : name = m
    · rw [if_pos hm] at h
      rw [put, if_pos hm, Option.some.inj h]
    · rw [if_neg hm] at h
      rw [put, if_neg hm, ih h]

/-- An entry that is set twice is what it was set to last. -/
theorem put_put (name : String) (a b : α) (entries : List (String × α)) :
    put name b (put name a entries) = put name b entries := by
  induction entries with
  | nil => simp [put]
  | cons entry rest ih =>
    obtain ⟨m, c⟩ := entry
    by_cases h : name = m
    · simp [put, h]
    · simp [put, h, ih]

/-! ## Changes of entries -/

theorem change_change (name : String) (f g : α → α) (entries : List (String × α)) :
    change name g (change name f entries) = change name (g ∘ f) entries := by
  rw [change, change, change, List.map_map]
  congr 1
  funext ⟨n, a⟩
  by_cases h : n = name <;> simp [h]

/-- A change of an entry that was just made. -/
theorem change_put_of_lookup_eq_none {name : String} {entries : List (String × α)}
    (h : entries.lookup name = none) (a : α) (f : α → α) :
    change name f (put name a entries) = put name (f a) entries := by
  induction entries with
  | nil => simp [put, change]
  | cons entry rest ih =>
    obtain ⟨n, b⟩ := entry
    rw [lookup_cons_eq] at h
    by_cases hn : name = n
    · simp [hn] at h
    · rw [if_neg hn] at h
      have hrest := ih h
      simp only [change] at hrest
      simp [put, change, hn, Ne.symm hn, hrest]

/-! ## Each name once -/

theorem mem_map_fst_put {name n : String} {a : α} {entries : List (String × α)} :
    n ∈ (put name a entries).map Prod.fst ↔ n = name ∨ n ∈ entries.map Prod.fst := by
  induction entries with
  | nil => simp [put]
  | cons entry rest ih =>
    obtain ⟨m, b⟩ := entry
    by_cases h : name = m
    · simp [put, h]
    · rw [put, if_neg h, List.map_cons, List.mem_cons, ih, List.map_cons, List.mem_cons]
      exact or_left_comm

theorem nodup_put (name : String) (a : α) {entries : List (String × α)}
    (h : (entries.map Prod.fst).Nodup) : ((put name a entries).map Prod.fst).Nodup := by
  induction entries with
  | nil => simp [put]
  | cons entry rest ih =>
    obtain ⟨m, b⟩ := entry
    obtain ⟨hfirst, hrest⟩ := List.nodup_cons.mp h
    by_cases hm : name = m
    · rw [put, if_pos hm]
      exact h
    · rw [put, if_neg hm, List.map_cons, List.nodup_cons, mem_map_fst_put]
      refine ⟨?_, ih hrest⟩
      rintro (heq | hmem)
      · exact hm heq.symm
      · exact hfirst hmem

theorem nodup_drop (name : String) {entries : List (String × α)}
    (h : (entries.map Prod.fst).Nodup) : ((drop name entries).map Prod.fst).Nodup :=
  h.sublist (List.Sublist.map Prod.fst List.filter_sublist)

/-- With each name once, the entries are those that can be looked up. -/
theorem mem_iff_lookup {name : String} {a : α} {entries : List (String × α)}
    (h : (entries.map Prod.fst).Nodup) :
    (name, a) ∈ entries ↔ entries.lookup name = some a := by
  induction entries with
  | nil => simp
  | cons entry rest ih =>
    obtain ⟨m, b⟩ := entry
    obtain ⟨hfirst, hrest⟩ := List.nodup_cons.mp h
    rw [lookup_cons_eq, List.mem_cons, ih hrest]
    by_cases hm : name = m
    · subst hm
      have hnone : rest.lookup name ≠ some a := by
        intro hlookup
        exact hfirst (List.mem_map.mpr ⟨(name, a), (ih hrest).mpr hlookup, rfl⟩)
      simp [hnone, eq_comm]
    · simp [hm]

/-! ## How many entries there are -/

/-- An entry that is set again keeps its place. -/
theorem map_fst_put_of_isSome {name : String} {entries : List (String × α)}
    (h : (entries.lookup name).isSome) (a : α) :
    (put name a entries).map Prod.fst = entries.map Prod.fst := by
  induction entries with
  | nil => cases h
  | cons entry rest ih =>
    obtain ⟨m, b⟩ := entry
    rw [lookup_cons_eq] at h
    by_cases hm : name = m
    · simp [put, hm]
    · rw [if_neg hm] at h
      rw [put, if_neg hm, List.map_cons, ih h, List.map_cons]

theorem length_put_of_isSome {name : String} {entries : List (String × α)}
    (h : (entries.lookup name).isSome) (a : α) : (put name a entries).length = entries.length := by
  have hnames := congrArg List.length (map_fst_put_of_isSome h a)
  rwa [List.length_map, List.length_map] at hnames

theorem length_put_le (name : String) (a : α) (entries : List (String × α)) :
    (put name a entries).length ≤ entries.length + 1 := by
  rcases h : entries.lookup name with _ | b
  · have hlength : (put name a entries).length = entries.length + 1 := by
      rw [put_of_lookup_eq_none h, List.length_append, List.length_singleton]
    exact Nat.le_of_eq hlength
  · rw [length_put_of_isSome (Option.isSome_of_eq_some h)]
    exact Nat.le_succ _

theorem length_drop_le (name : String) (entries : List (String × α)) :
    (drop name entries).length ≤ entries.length :=
  List.length_filter_le _ _

theorem length_drop_lt {name : String} {entries : List (String × α)}
    (h : (entries.lookup name).isSome) : (drop name entries).length < entries.length := by
  obtain ⟨a, ha⟩ := Option.isSome_iff_exists.mp h
  apply List.length_filter_lt_length_iff_exists.mpr
  exact ⟨(name, a), mem_of_lookup ha, by simp⟩

end DataParallel.Keyed

import DataParallel.Proofs.Server.Watched
import DataParallel.Proofs.Store.Runs
import DataParallel.Proofs.Store.Unseen

/-!
# Stores over watched servers

Watching a server changes nothing of what a store does.  Every call over a
watched server mirrors the call over the server itself, so that whatever is
reached over the server is reached over the watched one too, with the list of
all calls that led there.
-/

namespace DataParallel

open Step

namespace Store

variable {σ : Type}

/-- The store over the server itself. -/
def unwatched (s : Store (Watched σ)) : Store σ :=
  { s with server := s.server.map Watched.server }

/-- The state without the list of calls. -/
abbrev unwatch : Store (Watched σ) × Host → Store σ × Host := besideHost unwatched

/-! ## Going over to servers -/

/-- A server that is newly watched has no calls on its list. -/
theorem mirrors_setServer (server : Option σ) (devices : List Device) :
    Mirrors unwatch (setServer (server.map (Watched.mk · [])) devices) (setServer server devices)
    := by
  rcases server with _ | v
  · exact mirrors_throw _
  · refine mirrors_bind (mirrors_ofExcept _) fun registry => mirrors_get_bind fun x => ?_
    refine mirrors_bind (mirrors_modify fun _ => rfl) fun _ => ?_
    refine mirrors_ite ?_ ?_
    · exact mirrors_bind (mirrors_second _) fun _ => mirrors_second _
    · exact mirrors_second _

/-! ## Stores that begin -/

/-- What starting a store does to the host does not depend on its servers. -/
theorem start_watched (manager : ManagerId) (copy : Value) (h : Host) :
    (start manager copy : Step Host (Store σ)).runFrom h =
      (((start manager copy : Step Host (Store (Watched σ))).runFrom h).1.map unwatched,
        ((start manager copy : Step Host (Store (Watched σ))).runFrom h).2) := by
  rw [start, start, runFrom_bind_of_ok (runFrom_get h), runFrom_bind_of_ok (runFrom_get h)]
  rcases hjournal : (Host.onJournal (Journal.openLogger component)).runFrom h with ⟨fault | ⟨⟩, k⟩
  · rw [runFrom_bind_of_error hjournal, runFrom_bind_of_error hjournal]
    rfl
  · rw [runFrom_bind_of_ok hjournal, runFrom_bind_of_ok hjournal]
    rfl

/-- A store that was started with devices goes over to them. -/
theorem runFrom_startWith {manager : ManagerId} {c : Config} {v : σ} {h k : Host} {s : Store σ}
    {named : List Device} (hvalid : c.validate = .ok ())
    (hstart : (start manager c.copy).runFrom h = (.ok s, k)) (hnamed : c.deviceList = .ok named) :
    (startWith manager c (some v)).runFrom h =
      let r := (setServer (some v) (if named.isEmpty then [(k.pool.manager manager).device]
        else named)).runFrom (s, k)
      (r.1.map fun _ => r.2.1, r.2.2) := by
  have hok : (Step.ofExcept c.validate : Step Host Unit).runFrom h = (.ok (), h) := by
    rw [hvalid]
    rfl
  have hdevices : (Step.ofExcept c.deviceList : Step Host _).runFrom k = (.ok named, k) := by
    rw [hnamed]
    rfl
  rw [startWith, runFrom_bind_of_ok hok, runFrom_bind_of_ok hstart]
  simp only [Option.isNone_some, Bool.false_eq_true, ↓reduceIte]
  rw [runFrom_bind_of_ok hdevices, runFrom_bind_of_ok (runFrom_get k)]
  rfl

theorem startWith_watched (manager : ManagerId) (c : Config) (server : Option σ) (h : Host) :
    (startWith manager c server).runFrom h =
      (((startWith manager c (server.map (Watched.mk · []))).runFrom h).1.map unwatched,
        ((startWith manager c (server.map (Watched.mk · []))).runFrom h).2) := by
  have hstart := start_watched (σ := σ) manager c.copy h
  rcases hvalid : c.validate with fault | ⟨⟩
  · rw [startWith, startWith, hvalid]
    rfl
  have hok : (Step.ofExcept c.validate : Step Host Unit).runFrom h = (.ok (), h) := by
    rw [hvalid]
    rfl
  rcases hwatched : (start manager c.copy : Step Host (Store (Watched σ))).runFrom h with
    ⟨fault | s, k⟩
  · rw [hwatched] at hstart
    rw [startWith, startWith, runFrom_bind_of_ok hok, runFrom_bind_of_ok hok,
      runFrom_bind_of_error hstart, runFrom_bind_of_error hwatched]
    rfl
  rw [hwatched] at hstart
  rcases server with _ | v
  · rw [startWith, startWith, runFrom_bind_of_ok hok, runFrom_bind_of_ok hok,
      runFrom_bind_of_ok hstart, runFrom_bind_of_ok hwatched]
    rfl
  rcases hnamed : c.deviceList with fault | named
  · rw [startWith, startWith, runFrom_bind_of_ok hok, runFrom_bind_of_ok hok,
      runFrom_bind_of_ok hstart, runFrom_bind_of_ok hwatched, hnamed]
    rfl
  rw [Option.map_some, runFrom_startWith hvalid hstart hnamed,
    runFrom_startWith hvalid hwatched hnamed]
  have hset := mirrors_setServer (some v)
    (if named.isEmpty then [(k.pool.manager manager).device] else named) (s, k)
  rw [Option.map_some] at hset
  dsimp only [unwatch, besideHost, Prod.map, id] at hset
  dsimp only [Except.map]
  rw [hset]
  generalize (setServer (some (Watched.mk v [])) _).runFrom (s, k) = r
  obtain ⟨fault | ⟨⟩, t, l⟩ := r
  · rfl
  · rfl

/-- A state that a store over a server begins in is one of a store over the watched server. -/
theorem Begins.watched {x : Store σ × Host} (hx : Begins x) :
    ∃ x' : Store (Watched σ) × Host, Begins x' ∧ unwatch x' = x := by
  have hback : ∀ {r : Except Fault (Store (Watched σ)) × Host},
      (r.1.map unwatched, r.2) = (.ok x.1, x.2) →
      ∃ x' : Store (Watched σ) × Host, r = (.ok x'.1, x'.2) ∧ unwatch x' = x := by
    rintro ⟨fault | s, k⟩ hrun
    · cases hrun
    · obtain ⟨hstore, hhost⟩ := Prod.mk.inj hrun
      exact ⟨(s, k), rfl, Prod.ext (Except.ok.inj hstore) hhost⟩
  obtain ⟨h, hh, ⟨manager, copy, hrun⟩ | ⟨manager, c, server, hrun⟩⟩ := hx
  · rw [start_watched] at hrun
    obtain ⟨x', hwatched, hx'⟩ := hback hrun
    exact ⟨x', ⟨h, hh, Or.inl ⟨manager, copy, hwatched⟩⟩, hx'⟩
  · rw [startWith_watched] at hrun
    obtain ⟨x', hwatched, hx'⟩ := hback hrun
    exact ⟨x', ⟨h, hh, Or.inr ⟨manager, c, _, hwatched⟩⟩, hx'⟩

/-! ## The same moves -/

/-- The same move over watched servers. -/
def Move.watched : Move σ → Move (Watched σ)
  | .getValue p device => .getValue p device
  | .updateAll => .updateAll
  | .setServer server devices => .setServer (server.map (Watched.mk · [])) devices
  | .reset id => .reset id
  | .elsewhere change host => .elsewhere (fun w => { w with server := change w.server }) host

theorem Move.Possible.watched {x : Store (Watched σ) × Host} {move : Move σ}
    (h : move.Possible (unwatch x)) : move.watched.Possible x := by
  cases move with
  | getValue p device => exact h
  | updateAll => exact trivial
  | setServer server devices => exact trivial
  | reset id => exact trivial
  | elsewhere change host => exact h

/-! ## Calls -/

theorem mirrors_onServer (c : Call) (step : Step (σ × Host) Unit) :
    Mirrors unwatch (onServer (Watched.call c step)) (onServer step) := by
  rintro ⟨⟨manager, copy, registry, entries, server⟩, h⟩
  rcases server with _ | w
  · rfl
  · rfl

variable [ParameterServer σ]

/-- No call of a store sees that its server is watched. -/
theorem unseen_unwatched (name : String) : Unseen (unwatched : Store (Watched σ) → Store σ) name
    where
  manager _ := rfl
  copy _ := rfl
  registry _ := rfl
  server _ := Option.isNone_map
  entry _ := rfl
  opened _ _ := rfl
  updated _ _ := rfl
  init _ := mirrors_onServer _ _
  push _ _ := mirrors_onServer _ _
  pull _ _ := mirrors_onServer _ _

/-! ## Runs -/

theorem Move.after_watched (x : Store (Watched σ) × Host) (move : Move σ) :
    unwatch (move.watched.after x) = move.after (unwatch x) := by
  cases move with
  | getValue p device =>
    exact (congrArg Prod.snd ((unseen_unwatched p.id).getValue device x)).symm
  | updateAll =>
    exact (congrArg Prod.snd (runFrom_updateAll_unseen (Option.isNone_map) rfl
      fun name _ => unseen_unwatched name)).symm
  | setServer server devices =>
    exact (congrArg Prod.snd (mirrors_setServer server devices x)).symm
  | reset id =>
    rcases id with _ | id
    · rfl
    · rfl
  | elsewhere change host =>
    obtain ⟨⟨manager, copy, registry, entries, server⟩, h⟩ := x
    rcases server with _ | w
    · rfl
    · rfl

/-- Whatever a run over a server reaches, the same run over the watched server reaches. -/
theorem Run.watched {x y : Store σ × Host} {moves : List (Move σ)} (hrun : Run x moves y)
    {x' : Store (Watched σ) × Host} (hx : unwatch x' = x) :
    ∃ y', Run x' (moves.map Move.watched) y' ∧ unwatch y' = y := by
  induction hrun with
  | nil => exact ⟨x', .nil, hx⟩
  | snoc move _ hmove ih =>
    obtain ⟨y', hrun', rfl⟩ := ih
    refine ⟨move.watched.after y', ?_, Move.after_watched y' move⟩
    rw [List.map_append]
    exact .snoc move.watched hrun' hmove.watched

end Store

end DataParallel

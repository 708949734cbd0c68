import DataParallel.Proofs.Store.Runs

/-!
# The order of first touches

Which parameters a store has entries for, in which order, and which of them are
trainable can be told from the moves alone.  `Touches` follows a run without
looking at the store: a parameter is noted by the first call for it on a
registered device, with what its flag says then, and forgotten when its entry
is dropped.
-/

namespace DataParallel

open Step

namespace Store

variable {σ : Type}

/-- The registered devices, and the parameters in the order of their first
touches, each with whether it required a gradient then. -/
structure Touches where
  devices : List Device
  order : List (String × Bool)

namespace Touches

/-- The note that a move makes. -/
def after (t : Touches) : Move σ → Touches
  | .getValue p device =>
    if device ∈ t.devices ∧ p.id ∉ t.order.map Prod.fst then
      { t with order := t.order ++ [(p.id, p.requiresGradient.truthy)] }
    else t
  | .setServer (some _) devices =>
    match Registry.ofDevices devices with
    | .ok r => ⟨r.devices, []⟩
    | .error _ => t
  | .reset none => { t with order := [] }
  | .reset (some id) => { t with order := t.order.filter (·.1 != id) }
  | .setServer none _ | .updateAll | .elsewhere _ _ => t

/-- The trainable parameters in the order of their first touches. -/
def trainable (t : Touches) : List String := (t.order.filter (·.2)).map Prod.fst

end Touches

/-- The notes that fit the entries of a store. -/
def touches (s : Store σ) : Touches :=
  ⟨s.registry.devices, s.entries.map fun entry => (entry.1, entry.2.trainable)⟩

theorem trainable_touches (s : Store σ) : s.touches.trainable = s.trainable := by
  rw [Touches.trainable, touches, trainable, List.filter_map, List.map_map]
  rfl

theorem mem_order_touches {s : Store σ} {id : String} :
    id ∈ s.touches.order.map Prod.fst ↔ s.find? id ≠ none := by
  have hnames : s.touches.order.map Prod.fst = s.entries.map Prod.fst := by
    rw [touches, List.map_map]
    rfl
  rw [hnames, find?]
  constructor
  · intro hmem hnone
    obtain ⟨entry, hentry, rfl⟩ := List.mem_map.mp hmem
    have hne := List.lookup_eq_none_iff.mp hnone entry hentry
    rw [bne_self_eq_false] at hne
    cases hne
  · intro hsome
    refine Decidable.not_not.mp fun hmem => hsome (List.lookup_eq_none_iff.mpr ?_)
    intro entry hentry
    rw [bne_iff_ne]
    rintro rfl
    exact hmem (List.mem_map.mpr ⟨entry, hentry, rfl⟩)

/-- A new entry comes last. -/
theorem touches_settled {s : Store σ} {p : Parameter} (hnone : s.find? p.id = none)
    (arrays : List ArrayId) (usable : Bool) (server : Option σ) :
    (s.settled p arrays usable server).touches =
      { s.touches with order := s.touches.order ++ [(p.id, p.requiresGradient.truthy)] } := by
  rw [touches, settled, Keyed.put_of_lookup_eq_none hnone, List.map_append]
  rfl

theorem Asked.touches {x : Store σ × Host} {p : Parameter} {device : Device}
    {r : Except Fault ArrayId × Store σ × Host} (h : Asked p device x r) :
    r.2.1.touches = x.1.touches.after (.getValue p device : Move σ) := by
  have hmem : ∀ {slot}, x.1.registry.slotOf device = .ok slot → device ∈ x.1.registry.devices :=
    fun hslot => List.mem_of_getElem? (Registry.slotOf_eq_ok.mp hslot)
  have hold : ∀ {e}, x.1.find? p.id = some e →
      x.1.touches = x.1.touches.after (.getValue p device : Move σ) := by
    intro e hfind
    have hknown : p.id ∈ x.1.touches.order.map Prod.fst := by
      rw [mem_order_touches, hfind]
      exact Option.some_ne_none e
    rw [Touches.after, if_neg fun hnew => hnew.2 hknown]
  have hnew : ∀ {slot arrays usable} {server : Option σ},
      x.1.registry.slotOf device = .ok slot → x.1.find? p.id = none →
      (x.1.settled p arrays usable server).touches =
        x.1.touches.after (.getValue p device : Move σ) := by
    intro slot arrays usable server hslot hnone
    have hunknown : p.id ∉ x.1.touches.order.map Prod.fst := by
      rw [mem_order_touches, hnone]
      exact fun hne => hne rfl
    rw [touches_settled hnone, Touches.after, if_pos ⟨hmem hslot, hunknown⟩]
  cases h with
  | unknown hdevice => rw [Touches.after, if_neg fun hnew => hdevice hnew.1]
  | refused _ hfind _ => exact hold hfind
  | found _ hfind _ _ => exact hold hfind
  | broken hslot hnone _ _ => exact hnew hslot hnone
  | placed hslot hnone _ _ _ _ _ _ => exact hnew hslot hnone

variable [ParameterServer σ] [Contained σ]

theorem Move.touches_after {x : Store σ × Host} (hx : Consistent x) {move : Move σ}
    (hmove : move.Possible x) : (move.after x).1.touches = x.1.touches.after move := by
  rcases move with ⟨p, device⟩ | _ | ⟨server, devices⟩ | name | ⟨change, host⟩
  · exact (hx.asked hmove device).touches
  · obtain ⟨⟨server, hsame, -⟩, -⟩ := along_updateAll x
    rw [Move.after, hsame]
    rfl
  · rcases server with _ | v
    · rfl
    · rcases hr : Registry.ofDevices devices with fault | r
      · have hsame : Move.after x (.setServer (some v) devices) = x := by
          rcases setServer_cases x (some v) devices with ⟨_, hrun⟩ | ⟨_, r, _, -, hok, -, -⟩
          · rw [Move.after, hrun]
          · rw [hr] at hok
            cases hok
        rw [hsame, Touches.after, hr]
      · obtain ⟨k, -, hrun⟩ := setServer_ok x v hr
        rw [Move.after, hrun, Touches.after, hr]
        rfl
  · rcases name with _ | name
    · rfl
    · rw [Move.after, Touches.after, Store.reset, Keyed.drop, Store.touches, Store.touches,
        List.filter_map]
      rfl
  · rfl

/-- The entries of a store are those that the moves tell. -/
theorem Run.touches {x y : Store σ × Host} {moves : List (Move σ)} (hrun : Run x moves y)
    (hx : Consistent x) : y.1.touches = moves.foldl Touches.after x.1.touches := by
  induction hrun with
  | nil => rfl
  | snoc move hbefore hmove ih =>
    rw [Move.touches_after (hbefore.consistent hx) hmove, ih, List.foldl_append]
    rfl

end Store

end DataParallel

import DataParallel.Proofs.Server.Watched
import DataParallel.Proofs.Store.ReplicaTable

/-!
# A parameter is placed once

The first call that asks for a parameter registers the list of its arrays with
the server, once for each device, and every later call is answered from the
same list without touching anything, for as long as the entry is kept.
-/

namespace DataParallel

open Step

namespace Store

variable {σ : Type}

/-! ## The calls of a placement -/

/-- An init call of a parameter that succeeded. -/
def registered (id : String) (all : List ArrayId) : Call × Except Fault Unit :=
  (⟨.init, id, all, none⟩, .ok ())

/-- An init call of a parameter that failed. -/
def refused (id : String) (all : List ArrayId) (fault : Fault) : Call × Except Fault Unit :=
  (⟨.init, id, all, none⟩, .error fault)

/-- What an entry has got after registering, and the calls that were made. -/
inductive Registering (id : String) (all todo : List ArrayId) :
    List ArrayId → List (Call × Except Fault Unit) → Except Fault Unit → Prop where
  | all : Registering id all todo todo (List.replicate todo.length (registered id all)) (.ok ())
  | upTo {k : Nat} {fault : Fault} : k < todo.length →
    Registering id all todo (todo.take k)
      (List.replicate k (registered id all) ++ [refused id all fault]) (.error fault)

theorem Registering.cons {id : String} {all todo arrays : List ArrayId} {r : Except Fault Unit}
    {calls : List (Call × Except Fault Unit)} (h : Registering id all todo arrays calls r)
    (a : ArrayId) :
    Registering id all (a :: todo) (a :: arrays) (registered id all :: calls) r := by
  cases h with
  | all => exact .all
  | @upTo k fault hlt =>
    have hlt' : k + 1 < (a :: todo).length := Nat.succ_lt_succ hlt
    exact .upTo hlt'

variable [ParameterServer σ]

theorem register_calls (id : String) (all todo : List ArrayId) {s : Store (Watched σ)} {h : Host}
    {w : Watched σ} (hw : s.server = some w) :
    ∃ arrays calls r v k, Registering id all todo arrays calls r ∧
      (register id all todo).runFrom (s, h) =
        (r, s.filled id arrays (some ⟨v, w.calls ++ calls⟩), k) := by
  induction todo generalizing s h w with
  | nil =>
    refine ⟨[], [], .ok (), w.server, h, .all, ?_⟩
    rw [List.append_nil, ← hw, filled_nil]
    rfl
  | cons a rest ih =>
    obtain ⟨r, v, k, hinit⟩ := Watched.runFrom_init id all w h
    have hcall : (onServer (ParameterServer.init id all)).runFrom (s, h) =
        (r, { s with server := some ⟨v, w.calls ++ [(⟨.init, id, all, none⟩, r)]⟩ }, k) := by
      rw [runFrom_onServer hw, hinit]
    rcases r with fault | ⟨⟩
    · have hbroken : Registering id all (a :: rest) [] [refused id all fault] (.error fault) :=
        .upTo (k := 0) (Nat.succ_pos _)
      refine ⟨[], _, _, v, k, hbroken, ?_⟩
      rw [register, runFrom_bind_of_error hcall]
      exact congrArg (fun t => (Except.error fault, t, k))
        (filled_nil { s with server := _ } id).symm
    · obtain ⟨arrays, calls, r, v', k', hrest, hrun⟩ := ih (h := k)
        (s := s.filled id [a] (some ⟨v, w.calls ++ [registered id all]⟩)) rfl
      refine ⟨a :: arrays, _, r, v', k', hrest.cons a, ?_⟩
      rw [register, runFrom_bind_of_ok hcall, runFrom_bind_of_ok (runFrom_addReplica id a _)]
      rw [filled_filled, List.append_assoc] at hrun
      exact hrun

/-- If no call fails, registering makes the same call for each array. -/
theorem register_watched (id : String) (all todo : List ArrayId) {s : Store (Watched σ)}
    {h : Host} {w : Watched σ} (hw : s.server = some w) :
    ∃ v calls, ((register id all todo).runFrom (s, h)).2.1.server = some v ∧
      v.calls = w.calls ++ calls ∧
      ((∀ c ∈ calls, c.2 = .ok ()) →
        calls = List.replicate todo.length (registered id all) ∧
        ∃ k, (register id all todo).runFrom (s, h) =
          (.ok (), s.filled id todo (some v), k)) := by
  obtain ⟨arrays, calls, r, v, k, hcalls, hrun⟩ := register_calls id all todo (h := h) hw
  refine ⟨⟨v, w.calls ++ calls⟩, calls, by rw [hrun]; rfl, rfl, fun hok => ?_⟩
  cases hcalls with
  | all => exact ⟨rfl, k, hrun⟩
  | upTo _ => cases hok _ (List.mem_append_right _ (List.mem_singleton.mpr rfl))

/-! ## Moves that keep an entry -/

/-- The move neither drops the entry of a parameter nor changes the devices. -/
def Move.Spares (id : String) : Move σ → Prop
  | .reset none => False
  | .reset (some name) => name ≠ id
  | .setServer server devices => ∀ r, Registry.ofDevices devices = .ok r → server = none
  | _ => True

variable [Contained σ]

theorem Move.find?_of_spares {x : Store σ × Host} (hx : Consistent x) {move : Move σ}
    (hmove : move.Possible x) {id : String} (hspares : move.Spares id) {e : Entry}
    (hfind : x.1.find? id = some e) :
    (move.after x).1.find? id = some e ∧ (move.after x).1.registry = x.1.registry := by
  rcases move with ⟨p, device⟩ | _ | ⟨server, devices⟩ | name | ⟨change, host⟩
  · have hasked := hx.asked hmove device
    exact ⟨hasked.find?_of_some hfind, hasked.registry.1⟩
  · obtain ⟨⟨server, hsame, -⟩, -⟩ := along_updateAll x
    rw [Move.after, hsame]
    exact ⟨hfind, rfl⟩
  · rcases setServer_cases x server devices with ⟨fault, hrun⟩ | ⟨v, r, k, hv, hr, -, -⟩
    · rw [Move.after, hrun]
      exact ⟨hfind, rfl⟩
    · rw [hspares r hr] at hv
      cases hv
  · rcases name with _ | name
    · exact False.elim hspares
    · have hne : name ≠ id := hspares
      rw [Move.after, find?_reset, if_neg (by simpa using hne)]
      exact ⟨hfind, rfl⟩
  · exact ⟨hfind, rfl⟩

/-- An entry is kept by a run of moves that spare it. -/
theorem Run.find?_of_spares {x y : Store σ × Host} {moves : List (Move σ)}
    (hrun : Run x moves y) (hx : Consistent x) {id : String}
    (hspares : ∀ move ∈ moves, move.Spares id) {e : Entry} (hfind : x.1.find? id = some e) :
    y.1.find? id = some e ∧ y.1.registry = x.1.registry := by
  induction hrun with
  | nil => exact ⟨hfind, rfl⟩
  | snoc move hbefore hmove ih =>
    obtain ⟨hold, hregistry⟩ := ih fun m hm => hspares m (List.mem_append_left _ hm)
    obtain ⟨hnew, hsame⟩ := Move.find?_of_spares (hbefore.consistent hx) hmove
      (hspares move (by simp)) hold
    exact ⟨hnew, hsame.trans hregistry⟩

/-! ## Placed once -/

/-- What a first call for a parameter leaves: arrays `all` in slot order, which
were registered as a whole once for each device, and which answer all later
calls. -/
structure PlacedOnce (x y : Store (Watched σ) × Host) (id : String) (slot : Nat) (a : ArrayId)
    (calls : List (Call × Except Fault Unit)) (all : List ArrayId) : Prop where
  /-- The list that was registered is the list of the replicas. -/
  replicas : y.1.replicas id = all
  /-- There is an array for each registered device. -/
  length : all.length = x.1.registry.devices.length
  /-- The server was called once for each of them, each time with the whole list. -/
  calls : calls = List.replicate x.1.registry.devices.length (registered id all)
  /-- The canonical array is in the slot of the call. -/
  canonical : all[slot]? = some a
  /-- The arrays in the other slots are others, on the devices of these slots. -/
  others : ∀ {i c}, all[i]? = some c → i ≠ slot →
    c ≠ a ∧ ∃ d, x.1.registry.devices[i]? = some d ∧ (y.2.pool.array c).device = d.or .cpu
  /-- Later calls give the arrays of their slots and change nothing at all. -/
  later : ∀ {moves z}, Run y moves z → (∀ move ∈ moves, move.Spares id) →
    ∀ {p : Parameter} {device i}, p.id = id → x.1.registry.slotOf device = .ok i →
      ∃ c, all[i]? = some c ∧ (getValue p device).runFrom z = (.ok c, z)

/-- In a distributed store a parameter is placed by one call for a registered
device, which registers one list of arrays once for each device, and from then
on the store answers from this list.  A call for a device that is not
registered is refused and changes nothing. -/
theorem placed_once {start x : Store (Watched σ) × Host} {moves : List (Move (Watched σ))}
    (hstart : Begins start) (hrun : Run start moves x) {w : Watched σ}
    (hserver : x.1.server = some w) :
    (∀ p device, device ∉ x.1.registry.devices →
      (getValue p device).runFrom x = (.error (.unknownDevice device), x)) ∧
    ∀ (p : Parameter) a t device slot, x.1.find? p.id = none → p.array = some a →
      x.2.pool.items? a = some t → (x.2.pool.manager x.1.manager).isOpen →
      x.1.registry.slotOf device = .ok slot →
      ∃ v calls, ((getValue p device).runFrom x).2.1.server = some v ∧
        v.calls = w.calls ++ calls ∧
        ((∀ c ∈ calls, c.2 = .ok ()) →
          ((getValue p device).runFrom x).1 = .ok a ∧
          ∃ all, PlacedOnce x ((getValue p device).runFrom x).2 p.id slot a calls all) := by
  obtain ⟨hbegin, -⟩ := hstart.consistent
  have hx := hrun.consistent hbegin
  refine ⟨fun p device hdevice => getValue_of_not_mem hdevice, ?_⟩
  intro p a t device slot hnone ha ht hopen hslot
  obtain ⟨s, h⟩ := x
  have hhas : h.pool.Has a := Pool.has_of_items? ht
  have hasked := hx.asked (p := p)
    (by rw [ha]; rintro b ⟨⟩; exact hhas) device
  have hsome : s.server.isSome := by
    rw [hserver]
    rfl
  -- The arrays are there before the server hears of them.
  obtain ⟨all, q, hspread, hext, hplacement⟩ :=
    exists_placement hslot hsome p hx.sound ht hopen
  obtain ⟨v, calls, hv, hcalls, hok⟩ :=
    register_watched p.id all all (s := s.opened p) (h := { h with pool := q }) hserver
  refine ⟨v, calls, ?_, hcalls, fun hcallsok => ?_⟩
  · rw [server_getValue_of_register hslot hsome hnone ha hspread]
    exact hv
  have hcanonical : all[slot]? = some a := (hplacement.canonical slot).mpr ⟨rfl, Or.inl hsome⟩
  obtain ⟨hsame, k, hregister⟩ := hok hcallsok
  obtain ⟨l, hrun, hpool⟩ :=
    getValue_of_register hslot hsome hnone ha hspread hregister hcanonical
  have hevolves : q.Evolves l.pool := by
    obtain ⟨_, _, k', hend, -, hevolves, -⟩ :=
      runFrom_register (s := s.opened p) (h := { h with pool := q }) p.id all all
    rw [hregister] at hend
    rw [hpool, show k = k' from congrArg Prod.snd hend]
    exact hevolves
  have hy := hasked.consistent hx
  rw [hrun] at hy ⊢
  have hfind : (s.settled p all true (some v)).find? p.id =
      some ⟨p.requiresGradient.truthy, all, true, false⟩ := by
    rw [find?_settled, if_pos rfl]
    rfl
  refine ⟨rfl, all, by rw [replicas, hfind]; rfl, hplacement.length, ?_, hcanonical, ?_, ?_⟩
  · rw [hsame, hplacement.length]
  · intro i c hc hne
    have hca : c ≠ a := by
      rintro rfl
      exact hne ((hplacement.canonical i).mp hc).1
    obtain ⟨d, u, hd, -, hcopy⟩ := hplacement.copy hc hca
    exact ⟨hca, d, hd, by rw [hevolves.device hcopy.has, hcopy.device]⟩
  · intro moves z hlater hspares p' device' i hid hi
    obtain ⟨hkept, hregistry⟩ := hlater.find?_of_spares hy hspares hfind
    have hi' : z.1.registry.slotOf device' = .ok i := by
      rw [hregistry]
      exact hi
    rw [← hid] at hkept
    exact (hlater.consistent hy).answer hi' hkept rfl

theorem placed_once_trial :
    ∃ (x y : Store (Watched RecordingServer) × Host) (calls : List (Call × Except Fault Unit)),
      PlacedOnce x y "weight" 1 ⟨0⟩ calls [⟨1⟩, ⟨0⟩] := by
  have hrun : Run (trialStart : Store (Watched RecordingServer) × Host) _ _ :=
    .snoc (.setServer (some ⟨.new, []⟩) [.cpu, .gpu]) .nil trivial
  obtain ⟨v, calls, hv, hcalls, hok⟩ := (placed_once begins_trialStart hrun rfl).2
    trialParameter ⟨0⟩ (Tensor.zeros .float32 [2]) .gpu 1 rfl rfl (by rfl) (by decide) rfl
  have hcalls' : calls = List.replicate 2 (registered "weight" [⟨1⟩, ⟨0⟩]) := by
    rw [← List.nil_append calls]
    exact hcalls.symm.trans (congrArg Watched.calls (Option.some.inj hv).symm)
  obtain ⟨-, all, hplaced⟩ := hok fun c hc => by
    rw [hcalls'] at hc
    rw [List.eq_of_mem_replicate hc]
    rfl
  have hall : all = [⟨1⟩, ⟨0⟩] := hplaced.replicas.symm
  rw [hall] at hplaced
  exact ⟨_, _, calls, hplaced⟩

end Store

end DataParallel

import DataParallel.Device.Registry
import Mathlib.Data.List.Induction

/-!
# Slots and devices

Entering devices one after the other gives as many slots as devices if and only if the devices are
distinct, and then each device has its place as its slot.  So in a registry the slots and the
devices are inverse to each other, and a list of devices is refused exactly if it is empty or
repeats a device.
-/

namespace DataParallel

namespace Device

/-! ## Entering slots -/

theorem enterSlot_of_notMem {device : Device} {slots : List (Device × Nat)}
    (h : device ∉ slots.map Prod.fst) (slot : Nat) :
    enterSlot device slot slots = slots ++ [(device, slot)] := by
  induction slots with
  | nil => rfl
  | cons entry rest ih =>
    obtain ⟨d, n⟩ := entry
    rw [List.map_cons, List.mem_cons, not_or] at h
    rw [enterSlot, if_neg (Ne.symm h.1), ih h.2, List.cons_append]

theorem length_enterSlot_of_mem {device : Device} {slots : List (Device × Nat)}
    (h : device ∈ slots.map Prod.fst) (slot : Nat) :
    (enterSlot device slot slots).length = slots.length := by
  induction slots with
  | nil => cases h
  | cons entry rest ih =>
    obtain ⟨d, n⟩ := entry
    by_cases hd : d = device
    · rw [enterSlot, if_pos hd]
      rfl
    · have hrest : device ∈ rest.map Prod.fst := (List.mem_cons.mp h).resolve_left (Ne.symm hd)
      rw [enterSlot, if_neg hd, List.length_cons, ih hrest, List.length_cons]

theorem numbered_append_singleton (devices : List Device) (device : Device) :
    numbered (devices ++ [device]) = enterSlot device devices.length (numbered devices) := by
  rw [numbered, List.zipIdx_append, List.foldl_append, Nat.zero_add]
  rfl

/-- Distinct devices have their places as slots. -/
theorem numbered_of_nodup {devices : List Device} (h : devices.Nodup) :
    numbered devices = devices.zipIdx := by
  induction devices using List.reverseRecOn with
  | nil => rfl
  | append_singleton ds d ih =>
    obtain ⟨hds, -, hapart⟩ := List.nodup_append.mp h
    have hnew : d ∉ ds.zipIdx.map Prod.fst := by
      rw [List.zipIdx_map_fst]
      exact fun hd => hapart d hd d (List.mem_singleton_self d) rfl
    rw [numbered_append_singleton, ih hds, enterSlot_of_notMem hnew, List.zipIdx_append,
      Nat.zero_add]
    rfl

theorem length_numbered_le (devices : List Device) :
    (numbered devices).length ≤ devices.length := by
  induction devices using List.reverseRecOn with
  | nil => exact Nat.le_refl 0
  | append_singleton ds d ih =>
    rw [numbered_append_singleton, List.length_append, List.length_singleton]
    by_cases hd : d ∈ (numbered ds).map Prod.fst
    · rw [length_enterSlot_of_mem hd]
      omega
    · rw [enterSlot_of_notMem hd, List.length_append, List.length_singleton]
      omega

/-- Devices are distinct if and only if there are as many slots. -/
theorem length_numbered_eq_iff {devices : List Device} :
    (numbered devices).length = devices.length ↔ devices.Nodup := by
  constructor
  · intro h
    induction devices using List.reverseRecOn with
    | nil => exact List.nodup_nil
    | append_singleton ds d ih =>
      have hle := length_numbered_le ds
      rw [numbered_append_singleton, List.length_append, List.length_singleton] at h
      by_cases hd : d ∈ (numbered ds).map Prod.fst
      · rw [length_enterSlot_of_mem hd] at h
        omega
      · rw [enterSlot_of_notMem hd, List.length_append, List.length_singleton] at h
        have hds : ds.Nodup := ih (by omega)
        rw [numbered_of_nodup hds, List.zipIdx_map_fst] at hd
        refine List.nodup_append.mpr ⟨hds, List.pairwise_singleton _ d, fun e he f hf => ?_⟩
        rw [List.mem_singleton.mp hf]
        exact ne_of_mem_of_not_mem he hd
  · intro h
    rw [numbered_of_nodup h, List.length_zipIdx]

/-- The slot of a device that is looked up is its first place. -/
theorem lookup_zipIdx (devices : List Device) (k : Nat) (device : Device) :
    (devices.zipIdx k).lookup device = (devices.idxOf? device).map (· + k) := by
  induction devices generalizing k with
  | nil => rfl
  | cons d ds ih =>
    rw [List.zipIdx_cons, List.lookup_cons, List.idxOf?_cons]
    by_cases hd : device = d
    · simp [hd]
    · have hne : (device == d) = false := by simpa using hd
      have hne' : (d == device) = false := by simpa using Ne.symm hd
      rw [hne, hne', ih]
      rcases ds.idxOf? device with _ | i
      · rfl
      · exact congrArg some (show i + (k + 1) = i + 1 + k by omega)

end Device

namespace Registry

/-! ## Registries -/

theorem nodup (r : Registry) : r.devices.Nodup :=
  Device.length_numbered_eq_iff.mp (r.slots_eq ▸ r.length_slots)

theorem lookup_slots (r : Registry) (device : Device) :
    r.slots.lookup device = r.devices.idxOf? device := by
  rw [r.slots_eq, Device.numbered_of_nodup r.nodup, Device.lookup_zipIdx]
  simp

theorem slotOf_eq_ok {r : Registry} {device : Device} {slot : Nat} :
    r.slotOf device = .ok slot ↔ r.devices[slot]? = some device := by
  have hslot : r.slotOf device = .ok slot ↔ r.devices.idxOf? device = some slot := by
    rw [slotOf, lookup_slots]
    rcases r.devices.idxOf? device with _ | i <;> simp
  rw [hslot, List.idxOf?_eq_some_iff, List.getElem?_eq_some_iff]
  constructor
  · rintro ⟨hlt, hdevice, -⟩
    exact ⟨hlt, hdevice⟩
  · rintro ⟨hlt, hdevice⟩
    refine ⟨hlt, hdevice, fun j hj heq => ?_⟩
    rw [← hdevice] at heq
    exact absurd ((List.getElem_inj r.nodup).mp heq) (Nat.ne_of_lt hj)

theorem slotOf_of_not_mem {r : Registry} {device : Device} (h : device ∉ r.devices) :
    r.slotOf device = .error (.unknownDevice device) := by
  rw [slotOf, lookup_slots, List.idxOf?_eq_none_iff.mpr h]

theorem exists_slotOf {r : Registry} {device : Device} (h : device ∈ r.devices) :
    ∃ slot, r.slotOf device = .ok slot ∧ slot < r.devices.length := by
  obtain ⟨slot, hlt, hslot⟩ := List.getElem_of_mem h
  exact ⟨slot, slotOf_eq_ok.mpr (List.getElem?_eq_some_iff.mpr ⟨hlt, hslot⟩), hlt⟩

/-- A registry is determined by its devices. -/
theorem eq_of_devices {r s : Registry} (h : r.devices = s.devices) : r = s := by
  obtain ⟨devices, slots, hslots, _⟩ := r
  obtain ⟨devices', slots', hslots', _⟩ := s
  obtain rfl : devices = devices' := h
  obtain rfl : slots = slots' := hslots.trans hslots'.symm
  rfl

/-- The registry of distinct devices, of which there is at least one. -/
theorem exists_ofDevices_ok {devices : List Device} (hdevices : devices ≠ [])
    (hnodup : devices.Nodup) : ∃ r, ofDevices devices = .ok r ∧ r.devices = devices := by
  rw [ofDevices, if_neg hdevices, dif_pos (Device.length_numbered_eq_iff.mpr hnodup)]
  exact ⟨_, rfl, rfl⟩

theorem ofDevices_devices {r : Registry} (hdevices : r.devices ≠ []) :
    ofDevices r.devices = .ok r := by
  obtain ⟨s, hs, heq⟩ := exists_ofDevices_ok hdevices r.nodup
  rw [hs, eq_of_devices heq]

theorem ofDevices_repeated {devices : List Device} (h : ¬devices.Nodup) :
    ofDevices devices = .error (.repeatedDevices devices) := by
  have hdevices : devices ≠ [] := by
    rintro rfl
    exact h List.nodup_nil
  rw [ofDevices, if_neg hdevices, dif_neg (mt Device.length_numbered_eq_iff.mp h)]

/-! ## Calls -/

/-- A list of devices that can be registered. -/
def Acceptable (devices : List Device) : Prop := devices ≠ [] ∧ devices.Nodup

instance (devices : List Device) : Decidable (Acceptable devices) :=
  inferInstanceAs (Decidable (_ ∧ _))

/-- The last of the lists that can be registered, and without one what there was before. -/
def lastAccepted (before : List Device) (asked : List (List Device)) : List Device :=
  (asked.filter fun devices => Acceptable devices).getLast?.getD before

theorem lastAccepted_append (before : List Device) (asked later : List (List Device)) :
    lastAccepted before (asked ++ later) = lastAccepted (lastAccepted before asked) later := by
  rw [lastAccepted, List.filter_append, List.getLast?_append, lastAccepted, lastAccepted]
  rcases (later.filter fun devices => Acceptable devices).getLast? with _ | devices <;> rfl

theorem lastAccepted_singleton (before devices : List Device) :
    lastAccepted before [devices] = if Acceptable devices then devices else before := by
  by_cases h : Acceptable devices
  · simp [lastAccepted, h]
  · simp [lastAccepted, h]

/-- A call of a registry. -/
inductive Call where
  | single (device : Device)
  | configure (devices : List Device)

namespace Call

/-- The devices that a call asks for. -/
def devices : Call → List Device
  | single device => [device]
  | configure devices => devices

/-- The step that a call takes. -/
def step : Call → Step Registry Unit
  | single device => registerSingle device
  | configure devices => Registry.configure devices

end Call

/-- The registry after calls, whether they succeed or not. -/
def afterAll (r : Registry) (calls : List Call) : Registry :=
  calls.foldl (fun r call => (call.step.runFrom r).2) r

/-- Why devices are not registered. -/
inductive Refused (devices : List Device) : Fault → Prop where
  | none : devices = [] → Refused devices .noDevices
  | repeated : ¬devices.Nodup → Refused devices (.repeatedDevices devices)

theorem not_acceptable_iff {devices : List Device} :
    ¬Acceptable devices ↔ devices = [] ∨ ¬devices.Nodup := by
  rw [Acceptable, not_and_or, not_not]

theorem Refused.unfit {devices : List Device} {fault : Fault} (h : Refused devices fault) :
    devices = [] ∨ ¬devices.Nodup := by
  cases h with
  | none hdevices => exact Or.inl hdevices
  | repeated hrepeated => exact Or.inr hrepeated

theorem ofDevices_cases (devices : List Device) :
    (∃ fault, Refused devices fault ∧ ofDevices devices = .error fault) ∨
      ∃ r, Acceptable devices ∧ r.devices = devices ∧ ofDevices devices = .ok r := by
  by_cases hdevices : devices = []
  · exact Or.inl ⟨.noDevices, .none hdevices, if_pos hdevices⟩
  · by_cases hnodup : devices.Nodup
    · obtain ⟨r, hok, hr⟩ := exists_ofDevices_ok hdevices hnodup
      exact Or.inr ⟨r, ⟨hdevices, hnodup⟩, hr, hok⟩
    · exact Or.inl ⟨_, .repeated hnodup, ofDevices_repeated hnodup⟩

/-- What a call of a registry comes to. -/
structure Replaced (devices : List Device) (r : Registry)
    (outcome : Except Fault Unit × Registry) : Prop where
  refused_iff : (∃ fault, outcome.1 = .error fault) ↔ devices = [] ∨ ¬devices.Nodup
  refused : ∀ fault, outcome.1 = .error fault → Refused devices fault ∧ outcome.2 = r
  done : outcome.1 = .ok () → outcome.2.devices = devices

theorem replaced_configure (devices : List Device) (r : Registry) :
    Replaced devices r ((configure devices).runFrom r) := by
  rcases ofDevices_cases devices with ⟨fault, hrefused, herror⟩ | ⟨r', haccept, hdevices, hok⟩
  · have hrun : (configure devices).runFrom r = (.error fault, r) := by
      rw [configure, herror]
      rfl
    rw [hrun]
    refine ⟨⟨fun _ => hrefused.unfit, fun _ => ⟨fault, rfl⟩⟩, ?_, nofun⟩
    intro fault' h
    rw [← Except.error.inj h]
    exact ⟨hrefused, rfl⟩
  · have hrun : (configure devices).runFrom r = (.ok (), r') := by
      rw [configure, hok]
      rfl
    rw [hrun]
    refine ⟨⟨nofun, fun h => absurd haccept (not_acceptable_iff.mpr h)⟩, nofun, fun _ => hdevices⟩

theorem Replaced.devices_eq {devices : List Device} {r : Registry}
    {outcome : Except Fault Unit × Registry} (h : Replaced devices r outcome) :
    outcome.2.devices = if Acceptable devices then devices else r.devices := by
  obtain ⟨result, r'⟩ := outcome
  rcases result with fault | ⟨⟨⟩⟩
  · obtain ⟨hrefused, hsame⟩ := h.refused fault rfl
    rw [if_neg (not_acceptable_iff.mpr hrefused.unfit)]
    exact congrArg Registry.devices hsame
  · have haccept : Acceptable devices := by
      by_contra hnot
      obtain ⟨fault, hfault⟩ := h.refused_iff.mpr (not_acceptable_iff.mp hnot)
      cases hfault
    rw [if_pos haccept]
    exact h.done rfl

theorem Call.replaced (call : Call) (r : Registry) :
    Replaced call.devices r (call.step.runFrom r) := by
  cases call with
  | single device => exact replaced_configure [device] r
  | configure devices => exact replaced_configure devices r

/-- After calls, the devices are those of the last call that could be served. -/
theorem devices_afterAll (r : Registry) (calls : List Call) :
    (afterAll r calls).devices = lastAccepted r.devices (calls.map Call.devices) := by
  induction calls using List.reverseRecOn with
  | nil => rfl
  | append_singleton calls call ih =>
    rw [List.map_append, List.map_singleton, lastAccepted_append, ← ih, lastAccepted_singleton,
      afterAll, List.foldl_append]
    exact (call.replaced _).devices_eq

/-- The slots of a registry are the places in a list of devices, and there are no other slots. -/
structure Inverse (r : Registry) (devices : List Device) : Prop where
  devices_eq : r.devices = devices
  slotOf_eq : ∀ slot device, devices[slot]? = some device ↔ r.slotOf device = .ok slot
  unknown : ∀ device, device ∉ devices ↔ r.slotOf device = .error (.unknownDevice device)

theorem inverse (r : Registry) : r.Inverse r.devices where
  devices_eq := rfl
  slotOf_eq _ _ := slotOf_eq_ok.symm
  unknown device := by
    refine ⟨slotOf_of_not_mem, fun hunknown hmem => ?_⟩
    obtain ⟨slot, hslot, -⟩ := exists_slotOf hmem
    rw [hunknown] at hslot
    cases hslot

end Registry

end DataParallel

import DataParallel.Proofs.Config.Valid
import DataParallel.Proofs.Store.Unwatched
import Mathlib.Data.List.Nodup

/-!
# Stores of validated configurations

A validated configuration gives a store over a server if and only if each of its device specs can
be read and different specs are read as different devices.  Validation sees to neither: it compares
the specs as they are written, while the registry of the store compares the devices that they name.
Specs that are the texts of their devices are safe.
-/

namespace DataParallel

open Step

namespace Device

variable {specs : List Value} {devices : List Device}

/-- Specs that can all be read, and of which only equal ones name one device. -/
structure Unambiguous (specs : List Value) : Prop where
  read : ∀ v ∈ specs, ∃ device, ofValue v = .ok device
  apart : ∀ v ∈ specs, ∀ w ∈ specs, ofValue v = ofValue w → v.same w = true

/-! ## Reading specs -/

theorem mapM_ofValue_eq_ok_iff :
    specs.mapM ofValue = .ok devices ↔ specs.map ofValue = devices.map .ok := by
  induction specs generalizing devices with
  | nil =>
    cases devices with
    | nil => exact ⟨fun _ => rfl, fun _ => rfl⟩
    | cons d ds => exact ⟨nofun, nofun⟩
  | cons v vs ih =>
    rw [List.mapM_cons]
    constructor
    · intro h
      obtain ⟨d, hd, h⟩ := exists_of_bind_eq_ok h
      obtain ⟨ds, hds, h⟩ := exists_of_bind_eq_ok h
      obtain rfl := Except.ok.inj h
      rw [List.map_cons, List.map_cons, hd, ih.mp hds]
    · intro h
      obtain ⟨d, ds, rfl, hd, hds⟩ := List.map_eq_cons_iff.mp h.symm
      rw [← hd, ok_bind, ih.mpr hds.symm]
      rfl

theorem exists_mapM_ofValue (h : ∀ v ∈ specs, ∃ device, ofValue v = .ok device) :
    ∃ devices, specs.mapM ofValue = .ok devices := by
  induction specs with
  | nil => exact ⟨[], rfl⟩
  | cons v vs ih =>
    obtain ⟨⟨d, hd⟩, hvs⟩ := List.forall_mem_cons.mp h
    obtain ⟨ds, hds⟩ := ih hvs
    rw [List.mapM_cons, hd, ok_bind, hds]
    exact ⟨d :: ds, rfl⟩

theorem nodup_iff_of_mapM (h : specs.mapM ofValue = .ok devices) :
    devices.Nodup ↔ (specs.map ofValue).Nodup := by
  rw [mapM_ofValue_eq_ok_iff.mp h]
  exact (List.nodup_map_iff fun _ _ => Except.ok.inj).symm

theorem same_self_of_ofValue {v : Value} {device : Device} (h : ofValue v = .ok device) :
    v.same v = true := by
  cases v with
  | text s => exact beq_self_eq_true s
  | broken codes => exact beq_self_eq_true codes
  | _ => cases h

/-- Different specs are unambiguous if and only if they are read as different devices. -/
theorem unambiguous_iff (hdifferent : specs.Pairwise fun v w => w.same v = false) :
    Unambiguous specs ↔ ∃ devices, specs.mapM ofValue = .ok devices ∧ devices.Nodup := by
  constructor
  · intro h
    obtain ⟨devices, hread⟩ := exists_mapM_ofValue h.read
    refine ⟨devices, hread, (nodup_iff_of_mapM hread).mpr (List.pairwise_map.mpr ?_)⟩
    refine hdifferent.imp_of_mem fun {v w} hv hw hdiffers heq => ?_
    rw [h.apart w hw v hv heq.symm] at hdiffers
    cases hdiffers
  · rintro ⟨devices, hread, hnodup⟩
    have hone : ∀ v ∈ specs, ∃ device, ofValue v = .ok device := by
      intro v hv
      have hmem := List.mem_map_of_mem (f := ofValue) hv
      rw [mapM_ofValue_eq_ok_iff.mp hread] at hmem
      obtain ⟨device, -, hdevice⟩ := List.mem_map.mp hmem
      exact ⟨device, hdevice.symm⟩
    refine ⟨hone, fun v hv w hw heq => ?_⟩
    obtain rfl := List.inj_on_of_nodup_map ((nodup_iff_of_mapM hread).mp hnodup) hv hw heq
    obtain ⟨device, hdevice⟩ := hone v hv
    exact same_self_of_ofValue hdevice

/-- Specs that are the texts of their devices. -/
theorem unambiguous_of_text
    (h : ∀ v ∈ specs, ∃ device, ofValue v = .ok device ∧ v = .text device.text) :
    Unambiguous specs := by
  refine ⟨fun v hv => ?_, fun v hv w hw heq => ?_⟩
  · obtain ⟨device, hread, -⟩ := h v hv
    exact ⟨device, hread⟩
  · obtain ⟨device, hread, hv⟩ := h v hv
    obtain ⟨other, hother, hw⟩ := h w hw
    rw [hread, hother] at heq
    rw [hw, ← Except.ok.inj heq, ← hv]
    exact same_self_of_ofValue hread

end Device

/-- The registry of the devices that are named, or of the usual one if there are none. -/
theorem Registry.exists_ofDevices {devices : List Device} (h : devices.Nodup) (own : Device) :
    ∃ registry : Registry, registry.devices = (if devices = [] then [own] else devices) ∧
      ofDevices (if devices.isEmpty then [own] else devices) = .ok registry := by
  cases devices with
  | nil => exact ⟨.single own, rfl, ofDevices_devices (r := .single own) nofun⟩
  | cons d ds =>
    obtain ⟨registry, hok, hdevices⟩ := exists_ofDevices_ok (List.cons_ne_nil d ds) h
    exact ⟨registry, hdevices, hok⟩

theorem Registry.ofDevices_of_not_nodup {devices : List Device} (h : ¬devices.Nodup)
    (own : Device) :
    ofDevices (if devices.isEmpty then [own] else devices) = .error (.repeatedDevices devices) := by
  cases devices with
  | nil => exact absurd .nil h
  | cons d ds => exact ofDevices_repeated h

namespace Store

variable {σ : Type} {c : Config}

/-- Starting a store without devices always succeeds. -/
theorem exists_start (manager : ManagerId) (copy : Value) (h : Host) :
    ∃ k, k.pool = h.pool ∧ (start manager copy : Step Host (Store σ)).runFrom h =
      (.ok (new manager (h.pool.manager manager).device copy), k) := by
  obtain ⟨k, hpool, hlogger⟩ := Host.exists_openLogger component h
  refine ⟨k, hpool, ?_⟩
  rw [start, runFrom_bind_of_ok (runFrom_get _), runFrom_bind_of_ok hlogger]
  rfl

theorem runFrom_startWith_unread {manager : ManagerId} {v : σ} {h k : Host} {s : Store σ}
    {fault : Fault} (hvalid : c.validate = .ok ())
    (hstart : (start manager c.copy).runFrom h = (.ok s, k))
    (hnamed : c.deviceList = .error fault) :
    (startWith manager c (some v)).runFrom h = (.error fault, k) := by
  have hok : (Step.ofExcept c.validate : Step Host Unit).runFrom h = (.ok (), h) := by
    rw [hvalid]
    rfl
  have hfault : (Step.ofExcept c.deviceList : Step Host _).runFrom k = (.error fault, k) := by
    rw [hnamed]
    rfl
  rw [startWith, runFrom_bind_of_ok hok, runFrom_bind_of_ok hstart]
  exact runFrom_bind_of_error hfault

/-- A validated configuration gives a store over a server, on the devices that its specs name, in
their order, or on that of the manager if there are none, as long as the specs are unambiguous;
otherwise it is refused, for the first spec that cannot be read or for the devices that are named
twice.  Specs that are the texts of their devices are unambiguous. -/
theorem startWith_validated (hvalid : c.validate = .ok ()) (manager : ManagerId) (server : σ)
    (h : Host) :
    ∃ specs, c.devices.items = .ok specs ∧
      (Device.Unambiguous specs → ∃ devices registry k, k.pool = h.pool ∧
        specs.map Device.ofValue = devices.map .ok ∧
        registry.devices =
          (if devices = [] then [(h.pool.manager manager).device] else devices) ∧
        (startWith manager c (some server)).runFrom h =
          (.ok ⟨manager, c.copy, registry, [], some server⟩, k)) ∧
      (¬ Device.Unambiguous specs → ∃ fault k, k.pool = h.pool ∧
        (startWith manager c (some server)).runFrom h = (.error fault, k) ∧
        (specs.mapM Device.ofValue = .error fault ∨ ∃ devices,
          specs.mapM Device.ofValue = .ok devices ∧ fault = .repeatedDevices devices)) ∧
      ((∀ v ∈ specs, ∃ device, Device.ofValue v = .ok device ∧ v = .text device.text) →
        Device.Unambiguous specs) := by
  obtain ⟨specs, hspecs, hdistinct⟩ := (Config.validate_eq_ok_iff.mp hvalid).devices
  have hiff := Device.unambiguous_iff (Config.pairwise_of_distinct hdistinct)
  obtain ⟨k, hpool, hstart⟩ := exists_start (σ := σ) manager c.copy h
  refine ⟨specs, hspecs, fun hunambiguous => ?_, fun hnot => ?_, Device.unambiguous_of_text⟩
  · obtain ⟨devices, hread, hnodup⟩ := hiff.mp hunambiguous
    have hnamed : c.deviceList = .ok devices := by rw [Config.deviceList, hspecs, ok_bind, hread]
    obtain ⟨registry, hregistry, hr⟩ :=
      Registry.exists_ofDevices hnodup (h.pool.manager manager).device
    obtain ⟨l, hpool', hset⟩ :=
      setServer_ok (new manager (h.pool.manager manager).device c.copy, k) server hr
    refine ⟨devices, registry, l, hpool'.trans hpool, Device.mapM_ofValue_eq_ok_iff.mp hread,
      hregistry, ?_⟩
    rw [runFrom_startWith hvalid hstart hnamed, hpool]
    dsimp only
    rw [hset]
    rfl
  · rcases hread : specs.mapM Device.ofValue with fault | devices
    · have hnamed : c.deviceList = .error fault := by
        rw [Config.deviceList, hspecs, ok_bind, hread]
      exact ⟨fault, k, hpool, runFrom_startWith_unread hvalid hstart hnamed, Or.inl rfl⟩
    · have hnamed : c.deviceList = .ok devices := by
        rw [Config.deviceList, hspecs, ok_bind, hread]
      have hrepeated : ¬devices.Nodup := fun h => hnot (hiff.mpr ⟨devices, hread, h⟩)
      refine ⟨_, k, hpool, ?_, Or.inr ⟨devices, rfl, rfl⟩⟩
      rw [runFrom_startWith hvalid hstart hnamed,
        setServer_refused _ _ (Registry.ofDevices_of_not_nodup hrepeated _)]
      rfl

/-- A host with one manager, on a graphics processor. -/
def managedHost : Host := ((Host.onPool (Pool.newManager (.gpu 0))).runFrom Host.empty).2

theorem startWith_validated_capitals :
    ∃ c : Config, c.devices = .list [.text "GPU:1", .text "cpu"] ∧ c.validate = .ok () ∧
      ∃ registry k, registry.devices = [.gpu 1, .cpu] ∧
        (startWith ⟨0⟩ c (some ())).runFrom managedHost =
          (.ok ⟨⟨0⟩, c.copy, registry, [], some ()⟩, k) := by
  let c : Config := { Config.usual with devices := .list [.text "GPU:1", .text "cpu"] }
  have hvalid : c.validate = .ok () := by rfl
  refine ⟨c, rfl, hvalid, ?_⟩
  obtain ⟨specs, hspecs, hstore, -, -⟩ := startWith_validated hvalid ⟨0⟩ () managedHost
  obtain rfl := Except.ok.inj hspecs
  have hread : [Value.text "GPU:1", .text "cpu"].mapM Device.ofValue = .ok [.gpu 1, .cpu] := by rfl
  have hunambiguous : Device.Unambiguous [.text "GPU:1", .text "cpu"] :=
    (Device.unambiguous_iff (Config.pairwise_of_distinct rfl)).mpr ⟨_, hread, by decide⟩
  obtain ⟨devices, registry, k, -, hdevices, hregistry, hrun⟩ := hstore hunambiguous
  rw [← Device.mapM_ofValue_eq_ok_iff, hread] at hdevices
  obtain rfl := Except.ok.inj hdevices
  exact ⟨registry, k, hregistry, hrun⟩

/-- Two specs of one device pass validation, as does a spec that cannot be read. -/
theorem refused_although_valid :
    ∃ c d : Config, c.devices = .list [.text "gpu:1", .text "gpu(1)"] ∧ c.validate = .ok () ∧
      ((startWith ⟨0⟩ c (some ())).runFrom managedHost).1 =
        .error (.repeatedDevices [.gpu 1, .gpu 1]) ∧
      d.devices = .list [.text "gpu:x"] ∧ d.validate = .ok () ∧
      ((startWith ⟨0⟩ d (some ())).runFrom managedHost).1 = .error (.deviceIndex "gpu:x") := by
  refine ⟨{ Config.usual with devices := .list [.text "gpu:1", .text "gpu(1)"] },
    { Config.usual with devices := .list [.text "gpu:x"] }, rfl, by rfl, ?_, rfl, by rfl, ?_⟩
  · rfl
  · rfl

end Store

end DataParallel

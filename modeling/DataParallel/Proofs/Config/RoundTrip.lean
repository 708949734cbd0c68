import DataParallel.Config
import DataParallel.Proofs.Json.RoundTrip

/-!
# Configurations are kept

A configuration with settings of their usual kinds is the one that its record describes, also with
other entries between and behind the settings, and it is the one that its JSON form describes.
-/

namespace DataParallel

namespace Value

/-- The entry of a name, where no other entry has the name. -/
theorem field?_eq_some {name : String} {v : Value} {es : List (Value × Value)}
    (hmem : (.text name, v) ∈ es) (honly : ∀ e ∈ es, e.1 = .text name → e.2 = v) :
    (record es).field? name = some v := by
  rw [field?, find?]
  rcases hfound : es.find? fun entry => (text name).same entry.1 with _ | e
  · exact absurd (text_same_iff.mpr rfl) (List.find?_eq_none.mp hfound _ hmem)
  · have hsame := List.find?_some (p := fun entry : Value × Value => (text name).same entry.1)
      hfound
    have hname : e.1 = .text name := text_same_iff.mp hsame
    rw [hfound, Option.map_some, honly e (List.mem_of_find?_eq_some hfound) hname]

end Value

namespace Config

/-! ## The record of a configuration -/

/-- The names of the settings. -/
def settingNames : List String :=
  ["copy", "devices", "optimizer", "optimizer_configs", "init_strategy", "init_scale", "log_level"]

/-- The settings by their names. -/
def settings (c : Config) : List (Value × Value) :=
  [(.text "copy", c.copy), (.text "devices", c.devices), (.text "optimizer", c.optimizer),
   (.text "optimizer_configs", c.optimizerConfigs), (.text "init_strategy", c.initStrategy),
   (.text "init_scale", c.initScale), (.text "log_level", c.logLevel)]

variable {c : Config}

theorem map_fst_settings (c : Config) : c.settings.map Prod.fst = settingNames.map .text := rfl

theorem nodup_settingNames : (settingNames.map Value.text).Nodup := by
  simp [settingNames]

theorem toValue_of_list {devices : List Value} (h : c.devices = .list devices) :
    c.toValue = .ok (.record c.settings) := by
  rw [toValue, settings, h]
  rfl

/-- A setting is found among other entries. -/
theorem field?_of_perm {extra entries : List (Value × Value)}
    (hextra : ∀ e ∈ extra, e.1 ∉ settingNames.map Value.text)
    (hentries : entries.Perm (c.settings ++ extra)) {name : String} {v : Value}
    (hmem : (.text name, v) ∈ c.settings) : (Value.record entries).field? name = some v := by
  have hname : Value.text name ∈ settingNames.map Value.text :=
    map_fst_settings c ▸ List.mem_map_of_mem hmem
  refine Value.field?_eq_some (hentries.mem_iff.mpr (List.mem_append_left _ hmem)) ?_
  intro e he heq
  rcases List.mem_append.mp (hentries.mem_iff.mp he) with hsetting | hother
  · have hnodup : (c.settings.map Prod.fst).Nodup := nodup_settingNames
    exact congrArg Prod.snd (List.inj_on_of_nodup_map hnodup hsetting hmem heq)
  · exact absurd (heq ▸ hname) (hextra e hother)

/-- Other entries do not matter, wherever they stand. -/
theorem ofValue_of_perm {extra entries : List (Value × Value)}
    (hextra : ∀ e ∈ extra, e.1 ∉ settingNames.map Value.text)
    (hentries : entries.Perm (c.settings ++ extra)) : ofValue (.record entries) = .ok c := by
  have hfield : ∀ {name : String} {v : Value}, (.text name, v) ∈ c.settings →
      (Value.record entries).field? name = some v := field?_of_perm hextra hentries
  have hcopy : (Value.record entries).field? "copy" = some c.copy :=
    hfield (by simp [settings])
  have hdevices : (Value.record entries).field? "devices" = some c.devices :=
    hfield (by simp [settings])
  have hoptimizer : (Value.record entries).field? "optimizer" = some c.optimizer :=
    hfield (by simp [settings])
  have hconfigs : (Value.record entries).field? "optimizer_configs" = some c.optimizerConfigs :=
    hfield (by simp [settings])
  have hstrategy : (Value.record entries).field? "init_strategy" = some c.initStrategy :=
    hfield (by simp [settings])
  have hscale : (Value.record entries).field? "init_scale" = some c.initScale :=
    hfield (by simp [settings])
  have hlevel : (Value.record entries).field? "log_level" = some c.logLevel :=
    hfield (by simp [settings])
  rw [ofValue, hcopy, hdevices, hoptimizer, hconfigs, hstrategy, hscale, hlevel]
  rfl

/-! ## Settings of the usual kinds -/

/-- A configuration of settings of their usual kinds: a truth value, texts, a finite number, and
for each optimizer a record of any data. -/
structure Ordinary (c : Config) : Prop where
  copy : ∃ b, c.copy = .bool b
  devices : ∃ specs : List String, c.devices = .list (specs.map .text)
  optimizer : ∃ s, c.optimizer = .text s
  optimizerConfigs : ∃ es : List (Value × Value), c.optimizerConfigs = .record es ∧
    (∀ e ∈ es, ∃ s, e.1 = .text s) ∧ (es.map Prod.fst).Nodup ∧
    ∀ e ∈ es, (∃ settings, e.2 = .record settings) ∧ Json.Data e.2
  initStrategy : ∃ s, c.initStrategy = .text s
  initScale : (∃ x, c.initScale = .ofScalar x) ∧ Json.Data c.initScale
  logLevel : ∃ s, c.logLevel = .text s

theorem Ordinary.data_settings (h : c.Ordinary) : Json.Data (.record c.settings) := by
  obtain ⟨b, hcopy⟩ := h.copy
  obtain ⟨specs, hdevices⟩ := h.devices
  obtain ⟨optimizer, hoptimizer⟩ := h.optimizer
  obtain ⟨es, hes, hkeys, hnodup, hdata⟩ := h.optimizerConfigs
  obtain ⟨strategy, hstrategy⟩ := h.initStrategy
  obtain ⟨level, hlevel⟩ := h.logLevel
  have hspecs : Json.Data c.devices := by
    rw [hdevices]
    refine .list _ fun v hv => ?_
    obtain ⟨spec, -, rfl⟩ := List.mem_map.mp hv
    exact .text spec
  have hconfigs : Json.Data c.optimizerConfigs :=
    hes ▸ .record es hkeys hnodup fun e he => (hdata e he).2
  refine .record _ ?_ nodup_settingNames ?_
  · intro e he
    have hname : e.1 ∈ settingNames.map Value.text :=
      map_fst_settings c ▸ List.mem_map_of_mem he
    obtain ⟨name, -, hname⟩ := List.mem_map.mp hname
    exact ⟨name, hname.symm⟩
  · simp only [settings, List.forall_mem_cons]
    exact ⟨hcopy ▸ .bool b, hspecs, hoptimizer ▸ .text _, hconfigs, hstrategy ▸ .text _,
      h.initScale.2, hlevel ▸ .text _, nofun⟩

/-- A configuration is the one that its JSON form describes, and the one that its record describes,
together with any entries under other names in any order. -/
theorem round_trip (h : c.Ordinary) :
    (∃ s, c.toJson = .ok s ∧ ofJson s = .ok c) ∧
      ∃ fields, c.toValue = .ok (.record fields) ∧
        ∀ extra entries : List (Value × Value),
          (∀ e ∈ extra, e.1 ∉ settingNames.map Value.text) → entries.Perm (fields ++ extra) →
            ofValue (.record entries) = .ok c := by
  obtain ⟨specs, hdevices⟩ := h.devices
  have hvalue := toValue_of_list hdevices
  obtain ⟨s, hwrite, hread⟩ := Json.write_read h.data_settings
  refine ⟨⟨s, ?_, ?_⟩, c.settings, hvalue, fun _ _ => ofValue_of_perm⟩
  · rw [toJson, hvalue]
    exact hwrite
  · rw [ofJson, hread]
    have hnone : c.settings.Perm (c.settings ++ []) := .of_eq (List.append_nil _).symm
    exact ofValue_of_perm (List.forall_mem_nil _) hnone

/-- Settings with data of every kind. -/
def trialData : Value :=
  .record
    [(.text "rates", .list [.float 0.1, .float 1e-8, .float (-0.0), .float 1e22]),
     (.text "größe \"😀\"\n", .text "\\ \u007f"), (.text "steps", .int (-12345678901234567890)),
     (.text "more", .record [(.text "", .null), (.text "on", .bool true), (.text "no", .list [])])]

def trial : Config where
  copy := .bool true
  devices := .list [.text "gpu:0", .text "gpu:1"]
  optimizer := .text "adam"
  optimizerConfigs := .record [(.text "sgd", .record []), (.text "adam", trialData)]
  initStrategy := .text "he"
  initScale := .float 0.02
  logLevel := .text "debug"

theorem data_trialData : Json.Data trialData := by
  refine .record _ (by simp) (by simp) ?_
  simp only [List.forall_mem_cons]
  refine ⟨.list _ ?_, .text _, .int _ (by decide), .record _ (by simp) (by simp) ?_, nofun⟩
  · simp only [List.forall_mem_cons]
    refine ⟨.float _ ?_, .float _ ?_, .float _ ?_, .float _ ?_, nofun⟩ <;> decide +kernel
  · simp only [List.forall_mem_cons]
    exact ⟨.null, .bool true, .list _ nofun, nofun⟩

theorem ordinary_trial : trial.Ordinary where
  copy := ⟨true, rfl⟩
  devices := ⟨["gpu:0", "gpu:1"], rfl⟩
  optimizer := ⟨"adam", rfl⟩
  optimizerConfigs := by
    refine ⟨_, rfl, by simp, by simp, ?_⟩
    simp only [List.forall_mem_cons]
    exact ⟨⟨⟨_, rfl⟩, .record _ nofun .nil nofun⟩, ⟨⟨_, rfl⟩, data_trialData⟩, nofun⟩
  initStrategy := ⟨"he", rfl⟩
  initScale := ⟨⟨.float 0.02, rfl⟩, .float _ (by decide +kernel)⟩
  logLevel := ⟨"debug", rfl⟩

theorem round_trip_trial :
    (∃ s, trial.toJson = .ok s ∧ ofJson s = .ok trial) ∧
      ∃ fields, trial.toValue = .ok (.record fields) ∧
        ofValue (.record ((.text "copies", .int 3) :: fields ++ [(.int 7, .null)])) =
          .ok trial := by
  obtain ⟨hjson, fields, hvalue, hextended⟩ := round_trip ordinary_trial
  exact ⟨hjson, fields, hvalue,
    hextended [(.text "copies", .int 3), (.int 7, .null)] _ (by simp [settingNames])
      List.perm_middle.symm⟩

end Config

end DataParallel

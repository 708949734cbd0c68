import DataParallel.Journal.Basic
import DataParallel.Json.Reader
import DataParallel.Json.Writer
import DataParallel.Optimizer.Basic
import DataParallel.Parameter.Initial
import DataParallel.Value.Reading

/-!
# Configurations

The settings of a store and of what it works with.  A configuration is read from a record or from
JSON and takes any values; they are looked at when the configuration is validated or used.
-/

namespace DataParallel

/-- The settings of a store and of what it works with. -/
structure Config where
  copy : Value
  devices : Value
  optimizer : Value
  optimizerConfigs : Value
  initStrategy : Value
  initScale : Value
  logLevel : Value
  deriving Inhabited

namespace Config

/-- The usual settings of the optimizers. -/
def usualOptimizerConfigs : Value :=
  .record
    [(.text "sgd", .record
      [(.text "learning_rate", .float 0.01), (.text "momentum", .float 0.0),
       (.text "weight_decay", .float 0.0)]),
     (.text "adam", .record
      [(.text "learning_rate", .float 0.001), (.text "beta1", .float 0.9),
       (.text "beta2", .float 0.999), (.text "epsilon", .float 1e-8)])]

/-- The usual configuration. -/
def usual : Config where
  copy := .bool false
  devices := .list []
  optimizer := .text "sgd"
  optimizerConfigs := usualOptimizerConfigs
  initStrategy := .text "normal"
  initScale := .float 0.01
  logLevel := .text "INFO"

/-- The settings as a record. -/
def toValue (c : Config) : Except Fault Value := do
  let devices ← c.devices.items
  return .record
    [(.text "copy", c.copy), (.text "devices", .list devices),
     (.text "optimizer", c.optimizer), (.text "optimizer_configs", c.optimizerConfigs),
     (.text "init_strategy", c.initStrategy), (.text "init_scale", c.initScale),
     (.text "log_level", c.logLevel)]

/-- The configuration that a record describes; other entries of the record are ignored. -/
def ofValue (v : Value) : Except Fault Config :=
  match v with
  | .record _ =>
    .ok {
      copy := (v.field? "copy").getD usual.copy
      devices := (v.field? "devices").getD usual.devices
      optimizer := (v.field? "optimizer").getD usual.optimizer
      optimizerConfigs := (v.field? "optimizer_configs").getD usual.optimizerConfigs
      initStrategy := (v.field? "init_strategy").getD usual.initStrategy
      initScale := (v.field? "init_scale").getD usual.initScale
      logLevel := (v.field? "log_level").getD usual.logLevel }
  | _ => .error .missingPart

/-- The settings as JSON. -/
def toJson (c : Config) : Except Fault String := do Json.write (← c.toValue)

/-- The configuration that a JSON text describes. -/
def ofJson (s : String) : Except Fault Config := do ofValue (← Json.read s)

/-- Equality of all settings. -/
def same (c d : Config) : Bool :=
  c.copy.same d.copy && c.devices.same d.devices && c.optimizer.same d.optimizer &&
    c.optimizerConfigs.same d.optimizerConfigs && c.initStrategy.same d.initStrategy &&
    c.initScale.same d.initScale && c.logLevel.same d.logLevel

/-- The settings for an optimizer, the one of the configuration unless another is named. -/
def optimizerConfig (c : Config) (name : Value := .null) :
    Except Fault (List (Value × Value)) := do
  let key := if name.truthy then name else c.optimizer
  match c.optimizerConfigs with
  | .record entries =>
    if key.isKey then ((Value.find? key entries).getD (.record [])).toEntries
    else .error .wrongType
  | _ => .error .missingPart

/-- The optimizer with the settings of the configuration. -/
def makeOptimizer (c : Config) : Except Fault Optimizer := do
  let settings ← (← c.optimizerConfig).mapM fun (k, v) =>
    match k.text? with
    | some name => .ok (name, v)
    | none => .error .wrongType
  Optimizer.ofValue c.optimizer settings

/-- The level for loggers: a rank, or a text for an unknown name.  No level is named by bytes. -/
def level (c : Config) : Except Fault Value :=
  match c.logLevel.text? with
  | some name =>
    let upper := String.ofList (Text.upper name.toList)
    match Level.names.lookup upper with
    | some rank => .ok (.int rank)
    | none => .ok (.text ("Level " ++ upper))
  | none =>
    match c.logLevel with
    | .bytes bs => .ok (.text ("Level " ++ (Value.bytes (bs.map Text.upperByte)).display))
    | _ => .error .missingPart

/-- Whether a value is one of some texts. -/
def isOneOf (names : List String) (v : Value) : Bool := names.any fun name => v.same (.text name)

/-- Whether no two values are equal; all must be able to be keys. -/
def distinct (vs : List Value) : Except Fault Bool :=
  if vs.all Value.isKey then
    .ok ((vs.foldl (fun seen v => Value.insert v () seen) []).length == vs.length)
  else .error .wrongType

/-- Refuses a configuration with a setting that cannot be used. -/
def validate (c : Config) : Except Fault Unit := do
  if !isOneOf ["sgd", "adam"] c.optimizer then throw (.configOptimizer c.optimizer)
  if !isOneOf (Strategy.all.map Strategy.name) c.initStrategy then
    throw (.configStrategy c.initStrategy)
  match c.initScale.scalar? with
  | none => throw .wrongType
  | some s => if s.isNegative || s.isZero then throw .configScale
  if !(← distinct (← c.devices.items)) then throw (.configDevices c.devices)
  match ← c.level with
  | .int _ => return
  | _ => throw (.configLogLevel c.logLevel)

end Config

end DataParallel

import DataParallel.Device.Basic
import DataParallel.Value.Shown

/-!
# Faults

Every way in which a step can fail.  The faults that a rule of the library raises carry what the
message needs and have a message; the last group are failed operations on plain values, which
have none.
-/

namespace DataParallel

/-- The cause of a failure. -/
inductive Fault where
  | arrayClosed
  | managerClosed
  | noGradient
  | shapeMismatch (expected found : List Nat)
  | deviceSpec (spec : String)
  | deviceIndex (spec : String)
  | noDevices
  | repeatedDevices (devices : List Device)
  | unknownDevice (device : Device)
  | uninitialized (name : Value)
  | alreadyInitialized (name : Value)
  | parameterStreamEnd
  | embeddingStreamEnd
  | unknownVersion (version : Nat)
  | wrongName (found expected : Value)
  | cutShort (expected available : Nat)
  | badMarker (marker : List UInt8)
  | payloadSize (found : Nat) (implied : Int)
  | unknownStrategy (strategy : Value)
  | noItems
  | badEmbeddingSize
  | unknownElementType (name : Value)
  | itemNotFound (item : Value)
  | unknownParameterName (name : Value)
  | configOptimizer (name : Value)
  | configStrategy (strategy : Value)
  | configScale
  | configDevices (devices : Value)
  | configLogLevel (level : Value)
  | unknownOptimizer (name : String)
  | negativeMomentum
  | nothingToRegister (parameter : String)
  | unregistered (parameter : String)
  | serverMissing
  | noServer
  | partlyPlaced (parameter : String)
  | initRefused
  | pushRefused
  | pullRefused
  | interrupted (reason : String)
  /-- A value of a kind that the operation does not take. -/
  | wrongType
  /-- A value of the right kind that the operation cannot use. -/
  | badValue
  /-- A record without the entry. -/
  | missingKey
  /-- A position outside the sequence. -/
  | outOfRange
  /-- A thing without the part asked for. -/
  | missingPart
  /-- A number beyond the range of its representation. -/
  | tooLarge
  /-- Bytes that are no text. -/
  | badText
  /-- A text that has no bytes, because a character is not whole. -/
  | brokenText
  /-- A written value that does not follow its grammar. -/
  | malformed
  /-- A quotient with the denominator zero. -/
  | zeroDivisor
  /-- Items that are no numbers, where it is left open what they would come to. -/
  | notNumbers
  deriving Repr, Inhabited

namespace Fault

/-- A shape as messages show it. -/
def shapeText (shape : List Nat) : String :=
  tupleText (shape.map fun (d : Nat) => Number.intText d)

/-- A list of devices as messages show it. -/
def devicesText (devices : List Device) : String :=
  enclosed "[" "]" (devices.map fun d => Text.quotedShown d.text)

/-- The message of a fault that a rule of the library raises. -/
def message? : Fault → Option String
  | arrayClosed => some "NDArray has been closed"
  | managerClosed => some "NDManager has been closed"
  | noGradient =>
    some "No gradient attached to this NDArray; enable gradient tracking first"
  | shapeMismatch expected found =>
    some ("Shape mismatch: expected " ++ shapeText expected ++ ", got " ++ shapeText found)
  | deviceSpec spec => some ("Invalid device spec: " ++ Text.quotedShown spec)
  | deviceIndex spec => some ("Invalid device index in " ++ Text.quotedShown spec)
  | noDevices => some "At least one device must be registered"
  | repeatedDevices devices => some ("Devices must be distinct, got " ++ devicesText devices)
  | unknownDevice device =>
    some ("Device " ++ device.text ++ " is not registered with the parameter store")
  | uninitialized name => some ("Parameter " ++ name.display ++ " has not been initialized")
  | alreadyInitialized name => some ("Parameter " ++ name.display ++ " is already initialized")
  | parameterStreamEnd => some "Unexpected end of parameter stream"
  | embeddingStreamEnd => some "Unexpected end of embedding stream"
  | unknownVersion version =>
    some ("Unsupported encoding version: " ++ Number.intText version)
  | wrongName found expected =>
    some ("Unexpected parameter name " ++ found.shown ++ ", expected " ++ expected.shown)
  | cutShort expected available =>
    some ("Expected " ++ Number.intText expected ++ " bytes, got " ++ Number.intText available)
  | badMarker marker => some ("Invalid array record marker: " ++ Text.quotedBytes marker)
  | payloadSize found implied =>
    some ("Array payload is " ++ Number.intText found ++ " bytes, header implies " ++
      Number.intText implied)
  | unknownStrategy strategy => some ("Unknown init strategy: " ++ strategy.display)
  | noItems => some "You must specify the items to embed"
  | badEmbeddingSize => some "You must specify a positive embedding size"
  | unknownElementType name => some ("Invalid dtype: " ++ name.display)
  | itemNotFound item => some ("The provided item was not found: " ++ item.shown)
  | unknownParameterName name => some ("Invalid parameter name: " ++ name.display)
  | configOptimizer name => some ("Invalid optimizer: " ++ name.display)
  | configStrategy strategy => some ("Invalid init_strategy: " ++ strategy.display)
  | configScale => some "init_scale must be positive"
  | configDevices devices => some ("Duplicate devices in " ++ devices.display)
  | configLogLevel level => some ("Invalid log_level: " ++ level.display)
  | unknownOptimizer name =>
    some ("Unknown optimizer: " ++ name ++ ". Available: ['sgd', 'adam']")
  | negativeMomentum => some "momentum must be non-negative"
  | nothingToRegister parameter => some ("No arrays given to initialize " ++ parameter)
  | unregistered parameter => some ("Parameter not initialized on server: " ++ parameter)
  | serverMissing => some "A parameter server is required for distributed mode"
  | noServer => some "update_all_parameters requires a parameter server"
  | partlyPlaced parameter =>
    some ("Replicas for parameter " ++ parameter ++ " were partially materialized; " ++
      "reset the entry before retrying")
  | initRefused => some "backend unavailable"
  | pushRefused => some "push refused"
  | pullRefused => some "pull refused"
  | interrupted reason => some reason
  | wrongType | badValue | missingKey | outOfRange | missingPart | tooLarge | badText
  | brokenText | malformed | zeroDivisor | notNumbers => none

end Fault

theorem ok_bind {α β : Type} (a : α) (f : α → Except Fault β) : (Except.ok a >>= f) = f a := rfl

theorem exists_of_bind_eq_ok {α β : Type} {x : Except Fault α} {f : α → Except Fault β}
    {b : β} (h : x >>= f = .ok b) : ∃ a, x = .ok a ∧ f a = .ok b := by
  rcases x with fault | a
  · cases h
  · exact ⟨a, rfl, h⟩

end DataParallel

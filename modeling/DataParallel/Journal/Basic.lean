import DataParallel.Journal.Template
import DataParallel.Step

/-!
# The journal

Components write records through loggers, of which there is one for each component name.  A
logger has a level and handlers with levels; a record is shown by the handlers that it reaches.
A logger whose level was refused when it was made stays without handlers and without a level of
its own: it takes both from the logger whose name is a part of its own name up to a point.  Time,
host and process of a record are given by place holders.
-/

namespace DataParallel

/-- The importance of a record. -/
inductive Severity where
  | debug | info | warning | error
  deriving DecidableEq, Repr

namespace Severity

/-- The rank among levels. -/
def rank : Severity → Int
  | debug => 10
  | info => 20
  | warning => 30
  | error => 40

/-- The name in a record. -/
def name : Severity → String
  | debug => "DEBUG"
  | info => "INFO"
  | warning => "WARNING"
  | error => "ERROR"

end Severity

/-- A level as it was given: a number or a truth value. -/
abbrev Level := Scalar

namespace Level

/-- The rank of a level. -/
def rank (level : Level) : Int := (Scalar.whole? level).getD 0

/-- The levels that have names. -/
def names : List (String × Int) :=
  [("CRITICAL", 50), ("FATAL", 50), ("ERROR", 40), ("WARN", 30), ("WARNING", 30), ("INFO", 20),
   ("DEBUG", 10), ("NOTSET", 0)]

/-- The level that a value asks for. -/
def ofValue : Value → Except Fault Level
  | .bool b => .ok (.bool b)
  | .int n => .ok (.int n)
  | .text name => (names.lookup name).elim (.error .badValue) (.ok ∘ .int)
  | .broken _ => .error .badValue
  | _ => .error .wrongType

end Level

/-- Where a handler shows records. -/
inductive Sink where
  | console
  | file (number : Nat)
  deriving DecidableEq, Repr

/-- A sink with the level that a record must have. -/
structure Handler where
  sink : Sink
  level : Level

/-- A logger. -/
structure Logger where
  name : String
  showsHost : Value
  level : Level
  handlers : List Handler
  /-- The level was accepted. -/
  ready : Bool

/-- All loggers in the order in which they were made, and what was shown. -/
structure Journal where
  loggers : List Logger
  console : List String
  files : List (Nat × String)

namespace Journal

/-- The journal without loggers. -/
def empty : Journal := ⟨[], [], []⟩

instance : Inhabited Journal := ⟨empty⟩

/-- The logger of a component. -/
def logger? (j : Journal) (name : String) : Option Logger :=
  j.loggers.find? fun l => l.name == name

/-- The name of a logger among all loggers. -/
def fullName (name : String) : String := "paramstore." ++ name

/-- Makes the logger of a component if there is none yet, which shows records on the console and
in a file if one is given. -/
def openLogger (name : String) (level : Value := .int 20) (showsHost : Value := .bool true)
    (file? : Option Nat := none) : Step Journal Unit := do
  if ((← get).logger? name).isSome then return
  match Level.ofValue level with
  | .ok level =>
    let sinks := .console :: (file?.map Sink.file).toList
    let l : Logger := ⟨name, showsHost, level, sinks.map fun s => ⟨s, level⟩, true⟩
    modify fun j => { j with loggers := j.loggers ++ [l] }
  | .error fault =>
    let l : Logger := ⟨name, showsHost, .int 0, [], false⟩
    modify fun j => { j with loggers := j.loggers ++ [l] }
    throw fault

/-- Whether a logger stands above another one. -/
def isAbove (upper lower : Logger) : Bool := (upper.name ++ ".").isPrefixOf lower.name

/-- A logger and those above it, the nearest one first. -/
def chain (j : Journal) (l : Logger) : List Logger :=
  let above := j.loggers.filter fun u => isAbove u l
  l :: above.mergeSort fun a b => b.name.length ≤ a.name.length

/-- The rank that a record must have: that of the nearest logger with a level that is not zero,
or else that of warnings. -/
def threshold (j : Journal) (l : Logger) : Int :=
  (((j.chain l).map fun l => l.level.rank).find? (· != 0)).getD Severity.warning.rank

/-- Whether a logger takes records of a rank; rank zero and below is never taken. -/
def takes (j : Journal) (l : Logger) (rank : Scalar) : Except Fault Bool := do
  match rank with
  | .float x => return 0 < x && Scalar.wholeAtMost (j.threshold l) x
  | s => return 0 < Level.rank s && j.threshold l ≤ Level.rank s

/-- Whether a logger takes records of a rank given by a loose value. -/
def isEnabled (j : Journal) (name : String) (rank : Value) : Except Fault Bool :=
  match j.logger? name, rank.scalar? with
  | some l, some s => j.takes l s
  | _, _ => .error .wrongType

/-- A record as a line. -/
def line (shower logger : Logger) (severity : Severity) (message : String) : String :=
  "<time> | " ++ (if shower.showsHost.truthy then "<host:pid> | " else "") ++
    fullName logger.name ++ " | " ++ severity.name ++ " | " ++ message

/-- Shows a line in a sink. -/
def append (j : Journal) (sink : Sink) (text : String) : Journal :=
  match sink with
  | .console => { j with console := j.console ++ [text] }
  | .file number => { j with files := j.files ++ [(number, text)] }

/-- Writes a record.  It is shown by the nearest logger that is ready; a message that does not
fit its arguments is not shown. -/
def log (name : String) (severity : Severity) (template : String)
    (arguments : List Value := []) (j : Journal) : Journal :=
  match j.logger? name with
  | none => j
  | some l =>
    if severity.rank < j.threshold l then j
    else
      match (j.chain l).find? Logger.ready, Template.message? template arguments with
      | some shower, some message =>
        (shower.handlers.filter fun h => h.level.rank ≤ severity.rank).foldl
          (fun j h => j.append h.sink (line shower l severity message)) j
      | _, _ => j

/-- Changes a logger. -/
def updateLogger (j : Journal) (name : String) (f : Logger → Logger) : Journal :=
  { j with loggers := j.loggers.map fun l => if l.name == name then f l else l }

/-- Sets the level of a logger and of its handlers. -/
def setLevel (name : String) (level : Value) : Step Journal Unit := do
  let level ← Step.ofExcept (Level.ofValue level)
  modify (·.updateLogger name fun l =>
    { l with level := level, handlers := l.handlers.map fun h => { h with level := level } })

/-- Sets the level of all loggers. -/
def configure (level : Value) : Step Journal Unit := do
  for l in (← get).loggers do setLevel l.name level

/-- The lines on the console, which is empty afterwards. -/
def takeConsole (j : Journal) : List String × Journal := (j.console, { j with console := [] })

/-- The lines in a file. -/
def fileLines (j : Journal) (number : Nat) : List String :=
  (j.files.filter fun f => f.1 == number).map (·.2)

end Journal

end DataParallel

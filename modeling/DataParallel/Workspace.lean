import DataParallel.Embedding.Lookup
import DataParallel.Server.Local
import DataParallel.Server.Recording
import DataParallel.Store.Configured
import DataParallel.Store.Synchronization

/-!
# Workspaces

The components of one program and what they share.  Each component is kept in a table; a server
refers to its optimizer there, a store to its server, and an embedding to its weight.  A step on a
component finds in it what it refers to, and what it changes there is seen by all that refer to
the same.
-/

namespace DataParallel

/-- A server of either kind. -/
inductive AnyServer where
  | local (s : LocalServer)
  | recording (s : RecordingServer)

namespace AnyServer

instance : Inhabited AnyServer := ⟨.local default⟩

/-- Runs the step for the kind of the server. -/
def dispatch {α : Type} (onLocal : Step (LocalServer × Host) α)
    (onRecording : Step (RecordingServer × Host) α) : Step (AnyServer × Host) α :=
  .make fun (server, h) =>
    match server with
    | .local s =>
      let (result, s, h) := onLocal.runFrom (s, h)
      (result, .local s, h)
    | .recording s =>
      let (result, s, h) := onRecording.runFrom (s, h)
      (result, .recording s, h)

instance : ParameterServer AnyServer where
  init id arrays :=
    dispatch (ParameterServer.init id arrays) (ParameterServer.init id arrays)
  push id gradients priority :=
    dispatch (ParameterServer.push id gradients priority)
      (ParameterServer.push id gradients priority)
  pull id weights priority :=
    dispatch (ParameterServer.pull id weights priority)
      (ParameterServer.pull id weights priority)

/-- The optimizer of a server that has one. -/
def optimizer? : AnyServer → Option Optimizer
  | .local s => some s.optimizer
  | .recording _ => none

/-- The server with another optimizer, if it has one. -/
def withOptimizer (o : Optimizer) : AnyServer → AnyServer
  | .local s => .local { s with optimizer := o }
  | .recording s => .recording s

/-- The recorded calls. -/
def calls : AnyServer → List Call
  | .local _ => []
  | .recording s => s.calls

end AnyServer

/-- The place of an optimizer in its table. -/
structure OptimizerId where
  index : Nat
  deriving DecidableEq, Inhabited

/-- The place of a server in its table. -/
structure ServerId where
  index : Nat
  deriving DecidableEq, Inhabited

/-- The place of a store in its table. -/
structure StoreId where
  index : Nat
  deriving DecidableEq, Inhabited

/-- The place of a parameter in its table. -/
structure ParameterId where
  index : Nat
  deriving DecidableEq, Inhabited

/-- The place of an embedding in its table. -/
structure EmbeddingId where
  index : Nat
  deriving DecidableEq, Inhabited

/-- All components, with what they refer to. -/
structure Workspace where
  host : Host
  optimizers : Array Optimizer
  servers : Array (AnyServer × Option OptimizerId)
  stores : Array (Store AnyServer × Option ServerId)
  parameters : Array Parameter
  embeddings : Array (Embedding × ParameterId)

namespace Workspace

variable {α : Type}

/-- The workspace without components. -/
def empty : Workspace := ⟨.empty, #[], #[], #[], #[], #[]⟩

instance : Inhabited Workspace := ⟨empty⟩

/-- A step on the host. -/
def onHost (step : Step Host α) : Step Workspace α :=
  step.within Workspace.host fun h w => { w with host := h }

/-- A step on the pool. -/
def onPool (step : Step Pool α) : Step Workspace α := onHost (Host.onPool step)

/-- An optimizer by its place. -/
def optimizer (w : Workspace) (i : OptimizerId) : Optimizer := w.optimizers.getD i.index default

/-- Puts an optimizer into its place. -/
def putOptimizer (w : Workspace) (i : OptimizerId) (o : Optimizer) : Workspace :=
  { w with optimizers := w.optimizers.setIfInBounds i.index o }

/-- Adds an optimizer. -/
def addOptimizer (o : Optimizer) : Step Workspace OptimizerId :=
  modifyGet fun w => (⟨w.optimizers.size⟩, { w with optimizers := w.optimizers.push o })

/-- A step on an optimizer. -/
def onOptimizer (i : OptimizerId) (step : Step Optimizer α) : Step Workspace α :=
  step.within (·.optimizer i) fun o w => w.putOptimizer i o

/-- A server with its optimizer. -/
def server (w : Workspace) (i : ServerId) : AnyServer :=
  let (s, optimizer) := w.servers.getD i.index default
  optimizer.elim s fun o => s.withOptimizer (w.optimizer o)

/-- Puts a server into its place, and its optimizer as well. -/
def putServer (w : Workspace) (i : ServerId) (s : AnyServer) : Workspace :=
  let link := (w.servers.getD i.index default).2
  let w := { w with servers := w.servers.setIfInBounds i.index (s, link) }
  match link, s.optimizer? with
  | some place, some o => w.putOptimizer place o
  | _, _ => w

/-- Adds a server that refers to an optimizer. -/
def addServer (s : AnyServer) (link : Option OptimizerId) : Step Workspace ServerId :=
  modifyGet fun w => (⟨w.servers.size⟩, { w with servers := w.servers.push (s, link) })

/-- Starts a local server with an optimizer. -/
def startServer (i : OptimizerId) : Step Workspace ServerId := do
  let s ← onHost (LocalServer.start ((← get).optimizer i))
  addServer (.local s) (some i)

/-- A step on a server. -/
def onServer (i : ServerId) (step : Step (AnyServer × Host) α) : Step Workspace α :=
  step.within (fun w => (w.server i, w.host)) fun (s, h) w =>
    { w.putServer i s with host := h }

/-- A store with its server. -/
def store (w : Workspace) (i : StoreId) : Store AnyServer :=
  let (s, link) := w.stores.getD i.index ⟨Store.new default default .null, none⟩
  { s with server := link.map w.server }

/-- The server of a store. -/
def serverOf (w : Workspace) (i : StoreId) : Option ServerId := (w.stores[i.index]?).bind (·.2)

/-- Puts a store into its place with what it refers to. -/
def putStore (w : Workspace) (i : StoreId) (s : Store AnyServer) (link : Option ServerId) :
    Workspace :=
  let w := { w with stores := w.stores.setIfInBounds i.index (s, link) }
  match link, s.server with
  | some place, some server => w.putServer place server
  | _, _ => w

/-- Adds a store that refers to a server. -/
def addStore (s : Store AnyServer) (link : Option ServerId) : Step Workspace StoreId :=
  modifyGet fun w => (⟨w.stores.size⟩, { w with stores := w.stores.push (s, link) })

/-- A step on a store. -/
def onStore (i : StoreId) (step : Step (Store AnyServer × Host) α) : Step Workspace α :=
  step.within (fun w => (w.store i, w.host)) fun (s, h) w =>
    { w.putStore i s (w.serverOf i) with host := h }

/-- Lets a store go over to a server. -/
def setServer (i : StoreId) (server? : Option ServerId) (devices : List Device) :
    Step Workspace Unit :=
  .make fun w =>
    let step := Store.setServer (server?.map w.server) devices
    match step.runFrom (w.store i, w.host) with
    | (.ok (), s, h) => (.ok (), { w.putStore i s server? with host := h })
    | (.error fault, _, h) => (.error fault, { w with host := h })

/-- Starts a store as a configuration describes it. -/
def startStore (m : ManagerId) (c : Config) (server? : Option ServerId) :
    Step Workspace StoreId := do
  let server := server?.map (← get).server
  let s ← onHost (Store.startWith m c server)
  addStore s server?

/-- A parameter by its place. -/
def parameter (w : Workspace) (i : ParameterId) : Parameter := w.parameters.getD i.index default

/-- Puts a parameter into its place. -/
def putParameter (w : Workspace) (i : ParameterId) (p : Parameter) : Workspace :=
  { w with parameters := w.parameters.setIfInBounds i.index p }

/-- Adds a parameter. -/
def addParameter (p : Parameter) : Step Workspace ParameterId :=
  modifyGet fun w => (⟨w.parameters.size⟩, { w with parameters := w.parameters.push p })

/-- A step on a parameter. -/
def onParameter (i : ParameterId) (step : Step (Parameter × Host) α) : Step Workspace α :=
  step.within (fun w => (w.parameter i, w.host)) fun (p, h) w =>
    { w.putParameter i p with host := h }

/-- An embedding with its weight. -/
def embedding (w : Workspace) (i : EmbeddingId) : Embedding :=
  let (e, weight) := w.embeddings.getD i.index default
  { e with weight := w.parameter weight }

/-- Adds an embedding and its weight. -/
def addEmbedding (e : Embedding) : Step Workspace (EmbeddingId × ParameterId) := do
  let weight ← addParameter e.weight
  modifyGet fun w =>
    ((⟨w.embeddings.size⟩, weight), { w with embeddings := w.embeddings.push (e, weight) })

/-- Puts an embedding into its place, and its weight as well. -/
def putEmbedding (w : Workspace) (i : EmbeddingId) (e : Embedding) : Workspace :=
  let weight := (w.embeddings.getD i.index default).2
  { w.putParameter weight e.weight with
    embeddings := w.embeddings.setIfInBounds i.index (e, weight) }

/-- A step on an embedding. -/
def onEmbedding (i : EmbeddingId) (step : Step (Embedding × Host) α) : Step Workspace α :=
  step.within (fun w => (w.embedding i, w.host)) fun (e, h) w =>
    { w.putEmbedding i e with host := h }

/-- A step that reads a stream into a component; the result is what is left of the stream. -/
def reading {σ : Type} (stream : Stream) (step : Step (Stream × σ × Host) Unit) :
    Step (σ × Host) Stream :=
  .make fun (s, h) =>
    let (result, rest, s, h) := step.runFrom (stream, s, h)
    (result.map fun _ => rest, s, h)

end Workspace

end DataParallel

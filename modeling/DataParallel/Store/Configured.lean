import DataParallel.Config
import DataParallel.Device.Spec
import DataParallel.Store.Basic

/-!
# Stores from a configuration

A configuration gives a store its way of copying and, together with a server, its devices.  The
device of the manager is used if it names none.
-/

namespace DataParallel

/-- The devices that a configuration names. -/
def Config.deviceList (c : Config) : Except Fault (List Device) := do
  (← c.devices.items).mapM Device.ofValue

namespace Store

variable {σ : Type}

/-- Starts a store as a validated configuration describes it. -/
def startWith (manager : ManagerId) (c : Config) (server : Option σ) : Step Host (Store σ) := do
  Step.ofExcept c.validate
  let store ← start manager c.copy
  if server.isNone then return store
  let named ← Step.ofExcept c.deviceList
  let own := ((← get).pool.manager manager).device
  let devices := if named.isEmpty then [own] else named
  .make fun h =>
    let (result, store, h) := (setServer server devices).runFrom (store, h)
    (result.map fun _ => store, h)

end Store

end DataParallel

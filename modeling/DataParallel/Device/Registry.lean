import DataParallel.Step

/-!
# The device registry

The registered devices in order.  The slot of a device is its place in the order; it numbers the
replicas of every parameter.  The slots are kept beside the devices, under the devices, so that a
slot is looked up.  Two devices that are the same would share one slot, which is how they are
found.  A registry is replaced as a whole, by a list of distinct devices that is not empty, or not
at all.
-/

namespace DataParallel

namespace Device

/-- Enters the slot of a device; a device that has a slot keeps its place and gets the new one. -/
def enterSlot (device : Device) (slot : Nat) : List (Device × Nat) → List (Device × Nat)
  | [] => [(device, slot)]
  | (d, n) :: rest => if d = device then (d, slot) :: rest else (d, n) :: enterSlot device slot rest

/-- The slots of devices, entered one after the other. -/
def numbered (devices : List Device) : List (Device × Nat) :=
  devices.zipIdx.foldl (fun slots entry => enterSlot entry.1 entry.2 slots) []

end Device

/-- Distinct devices in slot order, and the slot of each. -/
structure Registry where
  devices : List Device
  slots : List (Device × Nat)
  slots_eq : slots = Device.numbered devices
  length_slots : slots.length = devices.length

namespace Registry

/-- The registry before any device is registered. -/
def empty : Registry := ⟨[], [], rfl, rfl⟩

instance : Inhabited Registry := ⟨empty⟩

/-- The registry of a list of devices. -/
def ofDevices (devices : List Device) : Except Fault Registry :=
  if devices = [] then .error .noDevices
  else if h : (Device.numbered devices).length = devices.length then
    .ok ⟨devices, Device.numbered devices, rfl, h⟩
  else .error (.repeatedDevices devices)

/-- The registry of one device, at slot zero. -/
def single (device : Device) : Registry := ⟨[device], [(device, 0)], rfl, rfl⟩

/-- Registers a list of devices in place of what was registered. -/
def configure (devices : List Device) : Step Registry Unit := do
  let r ← Step.ofExcept (ofDevices devices)
  modify fun _ => r

/-- Registers one device in place of what was registered. -/
def registerSingle (device : Device) : Step Registry Unit := configure [device]

/-- The slot of a device. -/
def slotOf (r : Registry) (device : Device) : Except Fault Nat :=
  match r.slots.lookup device with
  | some slot => .ok slot
  | none => .error (.unknownDevice device)

/-- Whether a device is registered. -/
def contains (r : Registry) (device : Device) : Bool := (r.slots.lookup device).isSome

/-- The written form, with the devices in slot order. -/
def text (r : Registry) : String :=
  "DeviceRegistry(" ++ Fault.devicesText r.devices ++ ")"

end Registry

end DataParallel

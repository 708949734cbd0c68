import DataParallel.Number.Notation

/-!
# Devices

A device is a placement label: a type such as `gpu` and a number.  Arrays on different devices
are different arrays, even if all of them are kept in host memory.  A label can also be left
open; it is then a label of its own, and what is placed under it goes to a usual device.
-/

namespace DataParallel

/-- A placement label. -/
inductive Device where
  /-- A compute unit, by its type and its number. -/
  | unit (kind : String) (index : Int)
  /-- No unit in particular. -/
  | unset
  deriving DecidableEq, Repr, Inhabited

namespace Device

/-- A processor. -/
def cpu (index : Int := 0) : Device := unit "cpu" index

/-- A graphics processor. -/
def gpu (index : Int := 0) : Device := unit "gpu" index

/-- A device, or the usual one if none is set. -/
def or : Device → Device → Device
  | unset, usual => usual
  | device, _ => device

/-- The written form, as in `gpu(1)`. -/
def text : Device → String
  | unit kind index => kind ++ "(" ++ Number.intText index ++ ")"
  | unset => "None"

end Device

end DataParallel

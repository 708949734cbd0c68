import DataParallel.Fault

/-!
# Labels made of loose values

The written form of a device whose type and number are loose values: both are shown as they are,
and a part that is not given has its usual value.
-/

namespace DataParallel.Device

/-- The written form of a type and a number. -/
def labelOf (kind index : Value) : String := kind.display ++ "(" ++ index.display ++ ")"

/-- The written form of a device that is asked for in one of three ways: with a type and a
number, or as a processor or a graphics processor with a number. -/
def label (way : String) (parts : List Value) : Except Fault String :=
  if way = "default" then
    match parts with
    | [] => .ok (labelOf (.text "cpu") (.int 0))
    | [kind] => .ok (labelOf kind (.int 0))
    | [kind, index] => .ok (labelOf kind index)
    | _ => .error .wrongType
  else if way = "cpu" || way = "gpu" then
    match parts with
    | [] => .ok (labelOf (.text way) (.int 0))
    | [index] => .ok (labelOf (.text way) index)
    | _ => .error .wrongType
  else .error .missingPart

end DataParallel.Device

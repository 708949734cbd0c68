import DataParallel.Dtype.Basic

/-!
# The common type of two element types

Two arrays are combined in the smallest type that holds the elements of both.  A plain number
does not change the type of an array, except that a float makes integers floats and a whole
number makes truth values integers.
-/

namespace DataParallel

namespace Width

/-- The wider of two widths. -/
def max : Width → Width → Width
  | one, w => w
  | w, one => w
  | two, w => w
  | w, two => w
  | four, w => w
  | w, four => w
  | eight, eight => eight

/-- The float that holds all integers of a width, as far as one does. -/
def precision : Width → Precision
  | one => .half
  | two => .single
  | four => .double
  | eight => .double

end Width

/-- The larger of two float sizes. -/
def Precision.max : Precision → Precision → Precision
  | half, p => p
  | p, half => p
  | single, p => p
  | p, single => p
  | double, double => double

namespace ElementType

/-- The type with sign that holds signed integers of one width and unsigned ones of another. -/
def joinSigns : Width → Width → ElementType
  | w, .one => signed (if w = .one then .two else w)
  | w, .two => signed (if w = .eight then .eight else .four)
  | _, .four => signed .eight
  | _, .eight => float .double

/-- The smallest type that holds the elements of both types. -/
def join : ElementType → ElementType → ElementType
  | bool, t => t
  | t, bool => t
  | signed v, signed w => signed (v.max w)
  | unsigned v, unsigned w => unsigned (v.max w)
  | signed v, unsigned w => joinSigns v w
  | unsigned v, signed w => joinSigns w v
  | float p, float q => float (p.max q)
  | float p, signed w => float (p.max w.precision)
  | float p, unsigned w => float (p.max w.precision)
  | signed w, float p => float (p.max w.precision)
  | unsigned w, float p => float (p.max w.precision)

@[simp] theorem join_self (t : ElementType) : join t t = t := by
  rcases t with _ | (_ | _ | _ | _) | (_ | _ | _ | _) | (_ | _ | _) <;> rfl

/-- The type in which elements are combined with a plain whole number. -/
def withWhole : ElementType → ElementType
  | bool => signed .eight
  | t => t

/-- The type in which elements are combined with a plain float. -/
def withFloat : ElementType → ElementType
  | float p => float p
  | _ => float .double

/-- The type of a quotient. -/
def quotient : ElementType → ElementType := withFloat

/-- The type of a square root. -/
def root : ElementType → ElementType
  | bool => float .half
  | signed w => float w.precision
  | unsigned w => float w.precision
  | float p => float p

/-- The type of a square. -/
def square : ElementType → ElementType
  | bool => signed .one
  | t => t

end ElementType

end DataParallel

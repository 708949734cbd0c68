import DataParallel.Optimizer.Basic

/-!
# Optimizer steps

An update counts itself, rescales and clips the gradient, and applies the rule.  The state arrays
of a parameter are made when they are first needed, as zeros in the type and shape of the weight,
and keep that type.
-/

namespace DataParallel

namespace Scalar

/-- One minus a number. -/
def complement : Scalar → Scalar
  | bool b => int (if b then 0 else 1)
  | int n => int (1 - n)
  | float x => float (1 - x)

/-- Whether a power may be out of range, as one of a float beyond one or a negative one may. -/
def mayGrow (x t : Float) : Bool := t < 0 || 1 < x || x < -1

/-- A power of a float.  Zero has no negative powers, a negative float has no roots, and a power
may be out of range; an infinite exponent has none of these limits. -/
def floatPower (x t : Float) : Except Fault Float :=
  if t.isInf then .ok (Float.pow x t)
  else if x == 0 && t < 0 then .error .zeroDivisor
  else if x < 0 && !x.isInf && t.floor != t then .error .wrongType
  else
    let y := Float.pow x t
    if mayGrow x t && y.isInf && !x.isInf then .error .tooLarge else .ok y

/-- The largest exponent for which a power of a whole number may be a float. -/
def maxExponent : Nat := 1100

/-- A power of a whole number, which may be too large to be a float. -/
def wholePower (n : Int) (t : Nat) : Except Fault Int :=
  if n.natAbs ≤ 1 then .ok (if t = 0 then 1 else if t % 2 = 0 then n * n else n)
  else if maxExponent < t then .error .tooLarge
  else .ok (n ^ t)

/-- A power of a number; a negative power of a whole number is a float. -/
def power (s t : Scalar) : Except Fault Scalar :=
  match s.whole?, t.whole? with
  | some n, some k => if 0 ≤ k then int <$> wholePower n k.toNat else inFloats
  | _, _ => inFloats
where
  inFloats : Except Fault Scalar := do return float (← floatPower (← s.toFloat) (← t.toFloat))

end Scalar

namespace Optimizer

/-- The number that a hyperparameter is. -/
def number (v : Value) : Except Fault Scalar := v.scalar?.elim (.error .wrongType) .ok

/-- The gradient as the rule takes it. -/
def preprocess (o : Optimizer) (grad : Tensor) : Except Fault Tensor := do
  let g ← grad.combineValue .multiply o.rescale
  match o.clip with
  | .null => return g
  | limit => g.clip (← number limit)

/-- A state array of a parameter, made like the weight if there is none. -/
def slot (id part : String) (weight : Tensor) : Step Optimizer Tensor := do
  need "_get_or_create_state"
  match (← get).state.lookup (key id part) with
  | some t => return t
  | none =>
    let t := Tensor.zeros weight.dtype weight.shape
    modify fun o => { o with state := Keyed.put (key id part) t o.state }
    return t

/-- Overwrites a state array of a parameter, which is `old` before. -/
def overwrite (id part : String) (old value : Tensor) : Step Optimizer Tensor := do
  let t ← Step.ofExcept (old.assign value)
  modify fun o => { o with state := Keyed.put (key id part) t o.state }
  return t

/-- The weight moved against a direction by the learning rate. -/
def descend (weight : Tensor) (rate : Value) (direction : Tensor) : Except Fault Tensor := do
  weight.combine .subtract (← direction.combineSingle .multiply rate)

/-- The gradient with a part of the weight added. -/
def decayed (decay : Value) (weight grad : Tensor) : Except Fault Tensor :=
  if decay.same (.int 0) then .ok grad
  else do grad.combine .add (← weight.combineValue .multiply decay)

/-- A step of stochastic gradient descent: the velocity is a part of itself and the gradient, and
without momentum the gradient is used as it is. -/
def applySgd (momentum decay : Value) (id : String) (weight grad : Tensor) :
    Step Optimizer Tensor := do
  let grad ← Step.ofExcept (decayed decay weight grad)
  let rate := (← get).rate
  if momentum.same (.int 0) then Step.ofExcept (descend weight rate grad)
  else
    let velocity ← slot id "velocity" weight
    let carried ← Step.ofExcept (velocity.combineValue .multiply momentum)
    let sum ← Step.ofExcept (carried.combine .add grad)
    let velocity ← overwrite id "velocity" velocity sum
    Step.ofExcept (descend weight rate velocity)

/-- An average of an old and a new value, with the weights `beta` and one minus `beta`. -/
def average (beta : Value) (old new : Tensor) : Except Fault Tensor := do
  let kept ← old.combineValue .multiply beta
  let added ← new.combineScalar .multiply (← number beta).complement
  kept.combine .add added

/-- An average without its bias to the zeros that it began with, after `t` updates. -/
def corrected (beta t : Value) (moment : Tensor) : Except Fault Tensor := do
  moment.combineScalar .divide (← (← number beta).power (← number t)).complement

/-- A step of Adam: averages of the gradient and of its square give the direction. -/
def applyAdam (beta₁ beta₂ epsilon : Value) (id : String) (weight grad : Tensor) :
    Step Optimizer Tensor := do
  let m ← slot id "m" weight
  let v ← slot id "v" weight
  need "get_update_count"
  let t := (← get).count id
  let m ← overwrite id "m" m (← Step.ofExcept (average beta₁ m grad))
  let v ← overwrite id "v" v (← Step.ofExcept (average beta₂ v grad.square))
  let mean ← Step.ofExcept (corrected beta₁ t m)
  let variance ← Step.ofExcept (corrected beta₂ t v)
  let scaled ← Step.ofExcept (mean.combineValue .multiply (← get).rate)
  let spread ← Step.ofExcept (variance.sqrt.combineValue .add epsilon)
  let step ← Step.ofExcept (scaled.combine .divide spread)
  Step.ofExcept (weight.combine .subtract step)

/-- Applies the rule. -/
def apply (id : String) (weight grad : Tensor) : Step Optimizer Tensor := do
  match (← get).rule with
  | .sgd momentum decay => applySgd momentum decay id weight grad
  | .adam beta₁ beta₂ epsilon => applyAdam beta₁ beta₂ epsilon id weight grad

/-- One update of a parameter, whose result is the new weight. -/
def update (id : String) (weight grad : Tensor) : Step Optimizer Tensor := do
  need "update"
  let n ← Step.ofExcept (counted ((← get).count id))
  modify fun o => { o with counts := Keyed.put id n o.counts }
  need "_preprocess"
  let grad ← Step.ofExcept (preprocess (← get) grad)
  need "_apply"
  apply id weight grad

end Optimizer

end DataParallel

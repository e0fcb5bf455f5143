import Telemetry.Number.Binary64

/-!
# Floats from a significand and a decimal exponent

* `scaled?`: a 64-bit significand times a power of ten, computed in floats: the significand is
  rounded, and then multiplied or divided by the rounded power. A product out of range is refused.
* `nearest`: digits times a power of ten, rounded once.
-/

namespace Telemetry.Binary64

/-- The power of ten nearest to `10 ^ n`. -/
def tenPower (n : Nat) : Binary64 := ofNat (Nat.pow 10 n)

/-- Divide by `10 ^ 308` as often as said, or until nothing is left. -/
def shrink : Nat → Binary64 → Binary64
  | 0, x => x
  | n + 1, x => if x.isZero then x else shrink n (x.div (tenPower 308))

/-- `significand * 10 ^ exponent` in floats; a number too large is refused. -/
def scaled? (significand : Nat) (exponent : Int) : Option Binary64 :=
  let x := ofNat significand
  if x.isZero then some x
  else if 308 < exponent then none
  else if 0 ≤ exponent then
    let y := x.mul (tenPower exponent.toNat)
    if y.isInfinite then none else some y
  else
    let n := (-exponent).toNat
    let steps := (n - 1) / 308
    let y := shrink steps x
    some (if y.isZero then y else y.div (tenPower (n - 308 * steps)))

/-- The number nearest to `digits * 10 ^ exponent`. A number of more than 400 places before or after
the point is infinite or zero. -/
def nearest (negative : Bool) (digits : Nat) (exponent : Int) : Binary64 :=
  let place := exponent + (Nat.toDigits 10 digits).length
  if digits = 0 ∨ place < -400 then ofMagnitude negative 0
  else if 400 < place then infinity negative
  else ofRatio negative (digits * Nat.pow 10 exponent.toNat) (Nat.pow 10 (-exponent).toNat)

end Telemetry.Binary64

/-!
# 64-bit binary floating-point numbers

* `Binary64`: a number as its 64 bits. A finite one has the absolute value `significand * 2 ^
  scale`.
* `Binary64.ofRatio`: the number nearest to a quotient of natural numbers, a tie going to the even
  significand and a quotient out of range to infinity.
* `Binary64.mul`, `Binary64.div`: the exact product or quotient of two finite numbers, rounded once.
-/

namespace Telemetry

/-- A 64-bit binary floating-point number. -/
structure Binary64 where
  bits : UInt64
  deriving DecidableEq

namespace Binary64

/-- The sign bit is set. -/
def isNegative (x : Binary64) : Bool := Nat.pow 2 63 ≤ x.bits.toNat

/-- The eleven exponent bits. -/
def exponentBits (x : Binary64) : Nat := x.bits.toNat / Nat.pow 2 52 % Nat.pow 2 11

/-- The 52 fraction bits. -/
def fractionBits (x : Binary64) : Nat := x.bits.toNat % Nat.pow 2 52

def isFinite (x : Binary64) : Bool := x.exponentBits < 2047

def isNaN (x : Binary64) : Bool := x.exponentBits == 2047 && x.fractionBits != 0

def isInfinite (x : Binary64) : Bool := x.exponentBits == 2047 && x.fractionBits == 0

/-- A zero of either sign. -/
def isZero (x : Binary64) : Bool := x.exponentBits == 0 && x.fractionBits == 0

/-- The integer significand of a finite number. -/
def significand (x : Binary64) : Nat :=
  if x.exponentBits = 0 then x.fractionBits else x.fractionBits + Nat.pow 2 52

/-- The power of two that the significand of a finite number counts. -/
def scale (x : Binary64) : Int := max x.exponentBits 1 - 1075

/-- Equality of numbers: zeros are equal whatever their sign, and a NaN differs from itself. -/
def same (x y : Binary64) : Bool :=
  !x.isNaN && !y.isNaN && (x.bits == y.bits || (x.isZero && y.isZero))

/-- The nearest natural number to `num / den`, a half going to the even neighbour. -/
def roundHalfEven (num den : Nat) : Nat :=
  let q := num / den
  let r := num % den
  if 2 * r < den then q else if den < 2 * r then q + 1 else q + q % 2

/-- The bits of infinity. -/
def infinityBits : Nat := 2047 * Nat.pow 2 52

/-- A number from its sign and the bits after the sign. -/
def ofMagnitude (negative : Bool) (magnitude : Nat) : Binary64 :=
  ⟨UInt64.ofNat (if negative then magnitude + Nat.pow 2 63 else magnitude)⟩

def infinity (negative : Bool) : Binary64 := ofMagnitude negative infinityBits

/-- The numerator and denominator of `num / den` counted in units of `2 ^ q`. -/
def unitsOf (num den : Nat) (q : Int) : Nat × Nat :=
  (num * Nat.pow 2 (-q).toNat, den * Nat.pow 2 q.toNat)

/-- The power of two that the significand of `num / den` counts: the significand has 53 bits, or
fewer at the least power. -/
def scaleOf (num den : Nat) : Int :=
  let q := (num.log2 : Int) - den.log2 - 53
  let u := unitsOf num den q
  max (if u.1 / u.2 < Nat.pow 2 53 then q else q + 1) (-1074)

/-- The number nearest to `num / den`. The exponent field and the significand are added, so that a
significand that rounds up to 54 bits carries into the exponent. -/
def ofRatio (negative : Bool) (num den : Nat) : Binary64 :=
  if num = 0 then ofMagnitude negative 0
  else
    let q := scaleOf num den
    let u := unitsOf num den q
    let magnitude := (q + 1074).toNat * Nat.pow 2 52 + roundHalfEven u.1 u.2
    ofMagnitude negative (min magnitude infinityBits)

/-- The number nearest to a natural number. -/
def ofNat (n : Nat) : Binary64 := ofRatio false n 1

/-- The number nearest to an integer. -/
def ofInt (i : Int) : Binary64 := ofRatio (i < 0) i.natAbs 1

def neg (x : Binary64) : Binary64 := ⟨x.bits ^^^ 0x8000000000000000⟩

/-- The product of two finite numbers, rounded once. -/
def mul (x y : Binary64) : Binary64 :=
  let q := x.scale + y.scale
  ofRatio (x.isNegative != y.isNegative)
    (x.significand * y.significand * Nat.pow 2 q.toNat) (Nat.pow 2 (-q).toNat)

/-- The quotient of two finite numbers, the second not zero, rounded once. -/
def div (x y : Binary64) : Binary64 :=
  let q := x.scale - y.scale
  ofRatio (x.isNegative != y.isNegative)
    (x.significand * Nat.pow 2 q.toNat) (y.significand * Nat.pow 2 (-q).toNat)

end Binary64

end Telemetry

import Telemetry.Number.Binary64

/-!
# Shortest decimal digits

* `Binary64.shortest`: the fewest decimal digits that read back as a positive finite number, and of
  those the nearest to it. A grid of `n` digits is the multiples of one power of ten; the number's
  two neighbours on it are tested against the interval of reals that round to the number.
* `FloatFormat`: where a number is written positionally and how an exponent is written.
* `FloatFormat.write`: the text of a finite number.
-/

namespace Telemetry

/-- The decimal number `digits * 10 ^ exponent`. -/
structure Decimal where
  digits : Nat
  exponent : Int
  deriving DecidableEq

/-- The decimal digits of a natural number. -/
def decimalDigits (n : Nat) : List Char := Nat.toDigits 10 n

namespace Binary64

/-- The interval of reals that round to a positive number, in units of a quarter of the place of its
last bit: the lower end, the number, the upper end. The lower neighbour of a power of two is nearer.
-/
def quarters (x : Binary64) : Nat × Nat × Nat :=
  let m := 4 * x.significand
  (if x.fractionBits = 0 ∧ 1 < x.exponentBits then m - 1 else m - 2, m, m + 2)

/-- `a * 10 ^ p` against `b * 2 ^ q`, both scaled to natural numbers. -/
def scaledPair (a : Nat) (p : Int) (b : Nat) (q : Int) : Nat × Nat :=
  (a * Nat.pow 10 p.toNat * Nat.pow 2 (-q).toNat, b * Nat.pow 2 q.toNat * Nat.pow 10 (-p).toNat)

/-- The power of ten of the first digit of a positive number. -/
def leadingPlace (x : Binary64) : Int :=
  let raised := x.significand * Nat.pow 2 x.scale.toNat * Nat.pow 10 400
  let shifted := raised / Nat.pow 2 (-x.scale).toNat
  (decimalDigits shifted).length - 401

/-- `d * 10 ^ p` reads back as the positive number `x`. The ends of the interval belong to it iff
the significand is even. -/
def readsBack (x : Binary64) (d : Nat) (p : Int) : Bool :=
  let (lo, _, hi) := x.quarters
  let low := scaledPair d p lo (x.scale - 2)
  let high := scaledPair d p hi (x.scale - 2)
  if x.significand % 2 = 0 then low.2 ≤ low.1 && high.1 ≤ high.2
  else low.2 < low.1 && high.1 < high.2

/-- The neighbour of `x` on the grid of `10 ^ p` that reads back as `x`, the nearer of two and on a
tie the even one. -/
def onGrid (x : Binary64) (p : Int) : Option Decimal :=
  let (_, mid, _) := x.quarters
  let (unit, value) := scaledPair 1 p mid (x.scale - 2)
  let d := value / unit
  match x.readsBack d p, x.readsBack (d + 1) p with
  | true, false => some ⟨d, p⟩
  | false, true => some ⟨d + 1, p⟩
  | false, false => none
  | true, true => some ⟨roundHalfEven value unit, p⟩

/-- A decimal without the zero at its end that a carry into a new place leaves. -/
def dropZero (d : Decimal) : Decimal :=
  if d.digits % 10 = 0 then ⟨d.digits / 10, d.exponent + 1⟩ else d

/-- The fewest digits that read back as a positive finite number. Seventeen always do. -/
def shortest (x : Binary64) : Decimal :=
  let k := x.leadingPlace
  dropZero (((List.range 17).findSome? fun (n : Nat) => x.onGrid (k - n)).getD ⟨0, 0⟩)

end Binary64

/-- How a finite number is written: positionally if its first digit is at a place from `least` to
`greatest`, else with an exponent, whose plus sign is written or not. -/
structure FloatFormat where
  least : Int
  greatest : Int
  plus : Bool

namespace FloatFormat

/-- A decimal in positional notation, with at least one digit on either side of the point. -/
def positional (d : Decimal) : List Char :=
  let ds := decimalDigits d.digits
  if 0 ≤ d.exponent then ds ++ List.replicate d.exponent.toNat '0' ++ ['.', '0']
  else
    let places := (-d.exponent).toNat
    if places < ds.length then
      ds.take (ds.length - places) ++ ['.'] ++ ds.drop (ds.length - places)
    else ['0', '.'] ++ List.replicate (places - ds.length) '0' ++ ds

/-- A decimal with one digit before the point and an exponent. -/
def scientific (f : FloatFormat) (d : Decimal) : List Char :=
  let ds := decimalDigits d.digits
  let e : Int := d.exponent + (ds.length - 1 : Nat)
  let mantissa := match ds with
    | [] => []
    | [c] => [c]
    | c :: rest => c :: '.' :: rest
  mantissa ++ ['e'] ++
    (if e < 0 then '-' :: decimalDigits (-e).toNat
     else if f.plus then '+' :: decimalDigits e.toNat else decimalDigits e.toNat)

/-- A positive decimal. -/
def decimal (f : FloatFormat) (d : Decimal) : List Char :=
  let place := d.exponent + ((decimalDigits d.digits).length - 1 : Nat)
  if f.least ≤ place ∧ place ≤ f.greatest then positional d else f.scientific d

/-- The text of a finite number: its shortest digits, a zero as `0.0`. -/
def write (f : FloatFormat) (x : Binary64) : String :=
  let body := if x.isZero then ['0', '.', '0'] else f.decimal x.shortest
  String.ofList (if x.isNegative then '-' :: body else body)

end FloatFormat

end Telemetry

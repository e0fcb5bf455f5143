/-!
# Base 64

* `Base64.encode`: bytes as letters, digits, `+` and `/`, four characters for every three bytes,
  with `=` in the places that the last bytes leave free.
-/

namespace Telemetry.Base64

/-- The digits in the order of their values. -/
def digits : List Char :=
  "ABCDEFGHIJKLMNOPQRSTUVWXYZabcdefghijklmnopqrstuvwxyz0123456789+/".toList

/-- The digit of a number below 64. -/
def digit (n : Nat) : Char := digits.getD n 'A'

/-- The characters of bytes. -/
def encodeChars : List UInt8 → List Char
  | [] => []
  | [a] =>
    let n := a.toNat * 0x10
    [digit (n / 0x40), digit (n % 0x40), '=', '=']
  | [a, b] =>
    let n := (a.toNat * 0x100 + b.toNat) * 0x4
    [digit (n / 0x1000), digit (n / 0x40 % 0x40), digit (n % 0x40), '=']
  | a :: b :: c :: rest =>
    let n := (a.toNat * 0x100 + b.toNat) * 0x100 + c.toNat
    digit (n / 0x40000) :: digit (n / 0x1000 % 0x40) :: digit (n / 0x40 % 0x40) ::
      digit (n % 0x40) :: encodeChars rest

/-- The text of bytes. -/
def encode (bytes : List UInt8) : String := String.ofList (encodeChars bytes)

end Telemetry.Base64

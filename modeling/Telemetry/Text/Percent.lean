/-!
# Percent encoding

* `Percent.encode`: a text as a part of an address: letters, digits, `-`, `.`, `_` and `~` stand for
  themselves, and every other character is written by its bytes.
* `Percent.encodeExcept`: the same with another choice of the characters that stand for themselves.
-/

namespace Telemetry.Percent

/-- An uppercase hexadecimal digit. -/
def digit (n : Nat) : Char := (Nat.digitChar n).toUpper

/-- A byte by number. -/
def escape (b : UInt8) : List Char := ['%', digit (b.toNat / 16), digit (b.toNat % 16)]

/-- How a character is written that does not stand for itself. -/
def escapeChar (c : Char) : List Char := (String.utf8EncodeChar c).flatMap escape

/-- Every character that is not `plain` is written by its bytes. -/
def encodeExcept (plain : Char → Bool) (cs : List Char) : List Char :=
  cs.flatMap fun c => if plain c then [c] else escapeChar c

/-- The characters that have no other meaning in any part of an address. -/
def isUnreserved (c : Char) : Bool :=
  c.isAlphanum || c == '-' || c == '.' || c == '_' || c == '~'

/-- A text as a part of an address. -/
def encode (s : String) : String := String.ofList (encodeExcept isUnreserved s.toList)

end Telemetry.Percent

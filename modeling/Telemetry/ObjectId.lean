import Telemetry.Json.Decode
import Telemetry.Error

/-!
# Document ids

An id is twelve bytes: four of the creation time in seconds, five of the process and three of a
counter, the most significant byte first. Its text is 24 lowercase hexadecimal digits.

* `ObjectId.parse`: the id of 24 hexadecimal digits of either case.
* `ObjectId.toHex`: the text of an id.
* `IdSource.next`: a new id for the time of a clock.
-/

namespace Telemetry

/-- A document id of twelve bytes. -/
structure ObjectId where
  bytes : List UInt8
  length_eq : bytes.length = 12
  deriving DecidableEq

namespace ObjectId

/-- Why a text is not an id. -/
inductive Fault where
  | wrongLength
  | badDigit (byte : UInt8) (position : Nat)
  deriving DecidableEq

/-- The wording of a fault. A byte that is no digit is shown as the character of its number. -/
def Fault.reason : Fault → String
  | wrongLength => "expected 24 hex digits"
  | badDigit byte position =>
    s!"Invalid character '{Char.ofNat byte.toNat}' at position {position}"

/-- The value of a hexadecimal digit of either case. -/
def digitValue? (c : Char) : Option Nat :=
  if '0' ≤ c ∧ c ≤ '9' then some (c.toNat - '0'.toNat)
  else if 'a' ≤ c ∧ c ≤ 'f' then some (c.toNat - 'a'.toNat + 10)
  else if 'A' ≤ c ∧ c ≤ 'F' then some (c.toNat - 'A'.toNat + 10)
  else none

/-- The first byte of a character's UTF-8 form. -/
def firstByte (c : Char) : UInt8 := (String.utf8EncodeChar c).headD 0

/-- The values of digits from a position on. The position counts bytes, and the digits before a
first bad one have one byte each. -/
def digitValues (position : Nat) : List Char → Except Fault (List Nat)
  | [] => .ok []
  | c :: cs =>
    match digitValue? c with
    | none => .error (.badDigit (firstByte c) position)
    | some d => (digitValues (position + 1) cs).map (d :: ·)

/-- Two digits make a byte. -/
def bytesOfDigits : List Nat → List UInt8
  | high :: low :: ds => UInt8.ofNat (16 * high + low) :: bytesOfDigits ds
  | _ => []

/-- The id that a text of 24 bytes writes in hexadecimal digits. -/
def parse (s : String) : Except Fault ObjectId :=
  if s.utf8ByteSize = 24 then
    match digitValues 0 s.toList with
    | .error fault => .error fault
    | .ok ds =>
      if h : (bytesOfDigits ds).length = 12 then .ok ⟨bytesOfDigits ds, h⟩
      else .error .wrongLength
  else .error .wrongLength

/-- The two hexadecimal digits of a byte. -/
def byteDigits (b : UInt8) : List Char :=
  [Text.hexDigit (b.toNat / 16), Text.hexDigit (b.toNat % 16)]

/-- The text of an id. -/
def toHex (x : ObjectId) : String := String.ofList (x.bytes.flatMap byteDigits)

/-- The id of a text, where a document is looked for. -/
def parseId (s : String) : Except Error ObjectId :=
  match parse s with
  | .ok x => .ok x
  | .error fault => .error (.malformedId s fault.reason)

def decode (v : Json) : Decoded ObjectId := do
  let s ← v.decodeText
  match parse s with
  | .ok x => return x
  | .error fault => throw (.malformed (Error.malformedMessage s fault.reason))

def toJson (x : ObjectId) : Json := .text x.toHex

end ObjectId

/-- What a process makes new ids of. -/
structure IdSource where
  unique : List UInt8
  counter : UInt32
  length_eq : unique.length = 5

namespace IdSource

/-- Seconds since 1970 as the creation time of an id: a time out of range is the nearest one. -/
def clampSeconds (seconds : Int) : Nat := min seconds.toNat (Nat.pow 2 32 - 1)

/-- The last `n` bytes of a number, the most significant first. -/
def lastBytes : Nat → Nat → List UInt8
  | 0, _ => []
  | n + 1, x => lastBytes n (x / 256) ++ [UInt8.ofNat (x % 256)]

theorem length_lastBytes (n x : Nat) : (lastBytes n x).length = n := by
  induction n generalizing x with
  | zero => rfl
  | succ n ih => simp [lastBytes, ih]

/-- The id for a time and the present counter. -/
def current (src : IdSource) (seconds : Int) : ObjectId where
  bytes := lastBytes 4 (clampSeconds seconds) ++ src.unique ++ lastBytes 3 src.counter.toNat
  length_eq := by simp [length_lastBytes, src.length_eq]

/-- A new id; the counter goes on by one and wraps after 32 bits. -/
def next (src : IdSource) (seconds : Int) : ObjectId × IdSource :=
  (src.current seconds, { src with counter := src.counter + 1 })

/-- The ids for a list of clock readings, in order. -/
def generate (src : IdSource) : List Int → List ObjectId
  | [] => []
  | t :: ts => src.current t :: (src.next t).2.generate ts

end IdSource

end Telemetry

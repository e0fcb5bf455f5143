import Telemetry.Text.Case.Tables
import Telemetry.Text.Quoted.Hidden

/-!
# Texts quoted for a message

* `hexDigits`: a number in lowercase hexadecimal digits, with leading zeros up to a width.
* `quoted`: a text between double quotes, with every character visible: a quote and a backslash get
  a backslash, the usual controls have letters and other hidden characters are shown by number.
-/

namespace Telemetry.Text

/-- The lowercase hexadecimal digit of a number below sixteen. -/
def hexDigit (n : Nat) : Char := Nat.digitChar n

/-- A number in lowercase hexadecimal digits, with leading zeros up to `width` digits. -/
def hexDigits (width n : Nat) : List Char :=
  let ds := Nat.toDigits 16 n
  List.replicate (width - ds.length) '0' ++ ds

/-- A character that a quoted text shows by number. -/
def isHidden (c : Char) : Bool :=
  if c.toNat < 0x80 then c.toNat < 0x20 || c.toNat == 0x7F else inRanges hiddenRanges c.toNat

/-- How a character is written between the quotes. -/
def quotedChar (c : Char) : List Char :=
  if c = '\x00' then ['\\', '0']
  else if c = '\t' then ['\\', 't']
  else if c = '\r' then ['\\', 'r']
  else if c = '\n' then ['\\', 'n']
  else if c = '"' then ['\\', '"']
  else if c = '\\' then ['\\', '\\']
  else if isHidden c then ['\\', 'u', '\x7b'] ++ hexDigits 0 c.toNat ++ ['\x7d']
  else [c]

/-- A text between double quotes, with every character visible. -/
def quoted (s : String) : String :=
  String.ofList ('"' :: s.toList.flatMap quotedChar ++ ['"'])

end Telemetry.Text

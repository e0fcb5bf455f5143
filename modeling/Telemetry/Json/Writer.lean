import Telemetry.Json.Value
import Telemetry.Number.Shortest
import Telemetry.Text.Quoted

/-!
# JSON text of a value

* `Json.compact`: the text without any blanks.
* `Json.pretty`: the text with one item or member per line, indented by two blanks for each level.
* `floatFormat`: a float has a point from `0.00001` up to below `10 ^ 16` and else an exponent with
  its sign.
-/

namespace Telemetry.Json

/-- A float is written positionally from `0.00001` to below `10 ^ 16`. -/
def floatFormat : FloatFormat := ⟨-5, 15, true⟩

/-- How a character is written inside a string: quotes, backslashes and controls are escaped. -/
def escapedChar (c : Char) : List Char :=
  if c = '"' then ['\\', '"']
  else if c = '\\' then ['\\', '\\']
  else if c = '\x08' then ['\\', 'b']
  else if c = '\x0c' then ['\\', 'f']
  else if c = '\n' then ['\\', 'n']
  else if c = '\r' then ['\\', 'r']
  else if c = '\t' then ['\\', 't']
  else if c.toNat < 0x20 then ['\\', 'u'] ++ Text.hexDigits 4 c.toNat
  else [c]

/-- A string with its quotes. -/
def stringChars (s : String) : List Char := '"' :: s.toList.flatMap escapedChar ++ ['"']

/-- An integer in decimal digits. -/
def intChars (i : Int) : List Char :=
  if i < 0 then '-' :: decimalDigits i.natAbs else decimalDigits i.natAbs

/-- Texts with a separator between any two. -/
def separated (separator : List Char) : List (List Char) → List Char
  | [] => []
  | [x] => x
  | x :: xs => x ++ separator ++ separated separator xs

mutual

/-- The characters of the text without blanks. -/
def compactChars : Json → List Char
  | null => ['n', 'u', 'l', 'l']
  | bool true => ['t', 'r', 'u', 'e']
  | bool false => ['f', 'a', 'l', 's', 'e']
  | int i => intChars i
  | float x => (floatFormat.write x).toList
  | text s => stringChars s
  | list items => '[' :: separated [','] (compactItems items) ++ [']']
  | object members => '\x7b' :: separated [','] (compactMembers members) ++ ['\x7d']

def compactItems : List Json → List (List Char)
  | [] => []
  | v :: vs => compactChars v :: compactItems vs

def compactMembers : List (String × Json) → List (List Char)
  | [] => []
  | (k, v) :: ms => (stringChars k ++ ':' :: compactChars v) :: compactMembers ms

end

/-- The text without blanks. -/
def compact (v : Json) : String := String.ofList v.compactChars

/-- A line break and the blanks of a level. -/
def newLine (level : Nat) : List Char := '\n' :: List.replicate (2 * level) ' '

/-- Written items between brackets, each on a line of its own; none leave the brackets together. -/
def bracketed (level : Nat) (opening closing : Char) (items : List (List Char)) : List Char :=
  match items with
  | [] => [opening, closing]
  | _ => opening :: newLine (level + 1) ++ separated (',' :: newLine (level + 1)) items ++
      newLine level ++ [closing]

mutual

/-- The characters of the indented text of a value that stands at a level. -/
def prettyChars (level : Nat) : Json → List Char
  | list items => bracketed level '[' ']' (prettyItems (level + 1) items)
  | object members => bracketed level '\x7b' '\x7d' (prettyMembers (level + 1) members)
  | v => compactChars v

def prettyItems (level : Nat) : List Json → List (List Char)
  | [] => []
  | v :: vs => prettyChars level v :: prettyItems level vs

def prettyMembers (level : Nat) : List (String × Json) → List (List Char)
  | [] => []
  | (k, v) :: ms => (stringChars k ++ [':', ' '] ++ prettyChars level v) :: prettyMembers level ms

end

/-- The text with one item or member per line. -/
def pretty (v : Json) : String := String.ofList (v.prettyChars 0)

end Telemetry.Json

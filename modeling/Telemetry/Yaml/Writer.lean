import Telemetry.Json.Writer
import Telemetry.Yaml.Scalar

/-!
# YAML text of a value

* `Yaml.write`: an object with one member per line. Members are indented by two blanks for each
  level, and the items of a list are not indented under their key.
* `floatFormat`: a float has a point from `0.00001` up to below `10 ^ 16` and else an exponent.
-/

namespace Telemetry.Yaml

/-- A float is written positionally from `0.00001` to below `10 ^ 16`. -/
def floatFormat : FloatFormat := ⟨-5, 15, false⟩

/-- How many bytes a key may have that is written in front of its colon. -/
def simpleKeyLimit : Nat := 128

/-- A key on one line stands in front of its colon, any other after a question mark. -/
def isSimpleKey (k : String) : Bool :=
  !k.toList.any isBreak && k.utf8ByteSize ≤ simpleKeyLimit

/-- A new line at an indentation. Text that ends with a line break is not broken again. -/
def newLine (indent : Nat) (before : List Char) : List Char :=
  if before.getLast? = some '\n' then before ++ pad indent else before ++ '\n' :: pad indent

/-- Written lines below each other at an indentation. -/
def lines (indent : Nat) : List (List Char) → List Char
  | [] => []
  | [x] => x
  | x :: xs => newLine indent x ++ lines indent xs

mutual

/-- A value that starts on a line which is filled up to `indent`. -/
def block (indent : Nat) : Json → List Char
  | .null => ['n', 'u', 'l', 'l']
  | .bool true => ['t', 'r', 'u', 'e']
  | .bool false => ['f', 'a', 'l', 's', 'e']
  | .int i => Json.intChars i
  | .float x => (floatFormat.write x).toList
  | .text s => scalar indent s
  | .list [] => ['[', ']']
  | .list items => lines indent (blockItems indent items)
  | .object [] => ['\x7b', '\x7d']
  | .object members => lines indent (blockMembers indent members)

/-- The lines of items. -/
def blockItems (indent : Nat) : List Json → List (List Char)
  | [] => []
  | v :: vs => ('-' :: ' ' :: block (indent + 2) v) :: blockItems indent vs

/-- The lines of members. -/
def blockMembers (indent : Nat) : List (String × Json) → List (List Char)
  | [] => []
  | (k, v) :: ms =>
    (if isSimpleKey k then
      scalar (indent + 2) k ++ ':' :: below indent v
    else
      newLine indent ('?' :: ' ' :: scalar (indent + 2) k) ++ ':' :: ' ' :: block (indent + 2) v) ::
    blockMembers indent ms

/-- A value after a key and its colon. -/
def below (indent : Nat) : Json → List Char
  | .list (v :: vs) => '\n' :: pad indent ++ lines indent (blockItems indent (v :: vs))
  | .object (m :: ms) =>
    '\n' :: pad (indent + 2) ++ lines (indent + 2) (blockMembers (indent + 2) (m :: ms))
  | v => ' ' :: block (indent + 2) v

end

/-- The text of an object. -/
def write (m : Entries Json) : String := String.ofList (newLine 0 (block 0 (.object m)))

end Telemetry.Yaml

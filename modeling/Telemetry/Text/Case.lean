import Telemetry.Text.Case.Tables

/-!
# Lowercase text

* `lowerChar`: the lowercase form of one character, by itself. Only `İ` has one of two characters.
* `lowercase`: the lowercase form of a text. It differs from the character-wise form in one letter:
  a capital sigma that ends a word becomes `ς`.
-/

namespace Telemetry.Text

/-- The lowercase form of one character; a character without one is its own. -/
def lowerChar (c : Char) : List Char :=
  if c.toNat < 0x80 then [c.toLower]
  else if c = 'İ' then ['i', '\u0307']
  else match lowerRuns.find? (·.covers c.toNat) with
    | some run => [Char.ofNat (run.apply c.toNat)]
    | none => [c]

/-- A letter with case that is not looked through. -/
def isCased (c : Char) : Bool := inRanges casedRanges c.toNat

/-- A character that the search for the neighbouring letter passes over. -/
def isCaseIgnorable (c : Char) : Bool := inRanges caseIgnorableRanges c.toNat

/-- The first character that is not passed over is a letter with case. -/
def meetsCased (cs : List Char) : Bool :=
  match cs.dropWhile isCaseIgnorable with
  | c :: _ => isCased c
  | [] => false

/-- A capital sigma is final after a letter and not before one. `before` is read backwards. -/
def lowerSigma (before after : List Char) : Char :=
  if meetsCased before && !meetsCased after then 'ς' else 'σ'

/-- Lowercase the rest of a text whose first part, read backwards, is `before`. -/
def lowerFrom (before : List Char) : List Char → List Char
  | [] => []
  | c :: rest =>
    (if c = 'Σ' then [lowerSigma before rest] else lowerChar c) ++ lowerFrom (c :: before) rest

/-- The lowercase form of a text. -/
def lowercase (s : String) : String := String.ofList (lowerFrom [] s.toList)

end Telemetry.Text

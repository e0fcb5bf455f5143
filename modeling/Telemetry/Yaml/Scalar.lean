import Telemetry.Json.Reader
import Telemetry.Number.Text
import Telemetry.Text.Quoted

/-!
# YAML scalars

How a text is written depends on what a reader would take it for and on the characters it holds.

* `readsAsOther`: without quotes the text would be read as null, a boolean or a number.
* `Style.of`: plain if nothing stands against it, a literal block if there are line breaks, and
  else in single or double quotes.
* `scalar`: the characters of a text, in the style that it has to have.
-/

namespace Telemetry.Yaml

/-! ## What a reader takes for something else -/

/-- The words for null and for the booleans. -/
def words : List String :=
  ["", "~", "null", "Null", "NULL", "true", "True", "TRUE", "false", "False", "FALSE"]

/-- The words for what is no finite number. -/
def specialNumbers : List String :=
  [".inf", ".Inf", ".INF", "+.inf", "+.Inf", "+.INF", "-.inf", "-.Inf", "-.INF",
    ".nan", ".NaN", ".NAN"]

/-- Digits of a base that write a number up to a limit. -/
def isNumeral (base limit : Nat) (cs : List Char) : Bool :=
  let ds := cs.filterMap Json.hexValue?
  cs ≠ [] && ds.length == cs.length && ds.all (· < base) &&
    ds.foldl (fun n d => base * n + d) 0 ≤ limit

/-- Digits of base ten, or of another base after its mark. -/
def isMarkedNumeral (limit : Nat) : List Char → Bool
  | '0' :: 'x' :: cs => isNumeral 16 limit cs
  | '0' :: 'o' :: cs => isNumeral 8 limit cs
  | '0' :: 'b' :: cs => isNumeral 2 limit cs
  | cs => isNumeral 10 limit cs

/-- An integer of 128 bits. -/
def isInteger : List Char → Bool
  | '+' :: cs => isMarkedNumeral (Nat.pow 2 128 - 1) cs
  | '-' :: cs => isMarkedNumeral (Nat.pow 2 127) cs
  | cs => isMarkedNumeral (Nat.pow 2 128 - 1) cs

/-- More digits than one after a leading zero. -/
def isPaddedNumeral (cs : List Char) : Bool :=
  match (splitSign cs).2 with
  | '0' :: d :: ds => (d :: ds).all Char.isDigit
  | _ => false

/-- A finite float. -/
def isFiniteFloat (cs : List Char) : Bool :=
  let unsigned := match cs with
    | '+' :: '+' :: _ => []
    | '+' :: '-' :: _ => []
    | '+' :: cs => cs
    | cs => cs
  (readFloat? (String.ofList unsigned)).any fun x => !x.isNaN && !x.isInfinite

/-- Without quotes the text would not be read as a text. -/
def readsAsOther (s : String) : Bool :=
  words.contains s || specialNumbers.contains s || isInteger s.toList ||
    isPaddedNumeral s.toList || isFiniteFloat s.toList

/-! ## What stands against a style -/

/-- The characters that end a line. -/
def isBreak (c : Char) : Bool :=
  c = '\n' || c = '\r' || c = '\u0085' || c = '\u2028' || c = '\u2029'

/-- A character that may be written as it is. -/
def isPrintable (c : Char) : Bool :=
  let n := c.toNat
  n == 0xA || (0x20 ≤ n && n ≤ 0x7E) ||
    (0xA0 ≤ n && n ≠ 0xFEFF && n ≠ 0xFFFE && n ≠ 0xFFFF)

/-- A blank, a line break, or the end of the text. -/
def endsWord : List Char → Bool
  | [] => true
  | c :: _ => c = ' ' || c = '\t' || c = '\x00' || isBreak c

/-- The signs that a plain text does not start with. -/
def leadingSigns : List Char :=
  ['#', ',', '[', ']', '\x7b', '\x7d', '&', '*', '!', '|', '>', '\'', '"', '%', '@', '\x60']

/-- A sign at the start of a text that makes it something else. -/
def startsLikeSign : List Char → Bool
  | '-' :: '-' :: '-' :: _ => true
  | '.' :: '.' :: '.' :: _ => true
  | c :: cs => leadingSigns.contains c || ((c = '?' || c = ':' || c = '-') && endsWord cs)
  | [] => false

/-- After its first character a text holds a colon at the end of a word or a comment. -/
def holdsSign : List Char → Bool
  | c :: d :: cs =>
    (d = ':' && endsWord cs) || (d = '#' && endsWord [c]) || holdsSign (d :: cs)
  | _ => false

/-- Two characters of these kinds stand side by side. -/
def holdsPair (p q : Char → Bool) : List Char → Bool
  | c :: d :: cs => (p c && q d) || holdsPair p q (d :: cs)
  | _ => false

def isSpace (c : Char) : Bool := c = ' '

/-- A text has a character that only double quotes can show, or a blank at the end of a line. -/
def needsEscapes (cs : List Char) : Bool := !cs.all isPrintable || holdsPair isSpace isBreak cs

/-- A text may stand in single quotes. -/
def fitsSingleQuotes (cs : List Char) : Bool :=
  !needsEscapes cs && !holdsPair isBreak isSpace cs

/-- A text may stand in a literal block. -/
def fitsLiteral (cs : List Char) : Bool :=
  !needsEscapes cs && cs.getLast? ≠ some ' '

/-- A text may stand without quotes. -/
def fitsPlain (cs : List Char) : Bool :=
  fitsSingleQuotes cs && !cs.any isBreak && cs.head? ≠ some ' ' && cs.getLast? ≠ some ' ' &&
    !startsLikeSign cs && !holdsSign cs

/-- How a text is written. -/
inductive Style where
  | plain
  | singleQuoted
  | doubleQuoted
  | literal
  deriving DecidableEq

/-- The style of a text. -/
def Style.of (s : String) : Style :=
  let cs := s.toList
  if cs.contains '\n' then if fitsLiteral cs then literal else doubleQuoted
  else if fitsPlain cs && !readsAsOther s then plain
  else if fitsSingleQuotes cs then singleQuoted
  else doubleQuoted

/-! ## The characters of a text -/

/-- The blanks at the start of a line. -/
def pad (indent : Nat) : List Char := List.replicate indent ' '

/-- A text between single quotes, where a quote is written twice. What follows a line break is
indented. -/
def singleQuotedChars (indent : Nat) : Bool → List Char → List Char
  | broken, [] => if broken then pad indent else []
  | broken, c :: cs =>
    if isBreak c then c :: singleQuotedChars indent true cs
    else (if broken then pad indent else []) ++ (if c = '\'' then ['\'', '\''] else [c]) ++
      singleQuotedChars indent false cs

/-- A number in uppercase hexadecimal digits of a fixed count. -/
def upperHex (count n : Nat) : List Char := (Text.hexDigits count n).map Char.toUpper

/-- How a character is written between double quotes. -/
def escapedChar (c : Char) : List Char :=
  let n := c.toNat
  if c = '"' then ['\\', '"']
  else if c = '\\' then ['\\', '\\']
  else if isPrintable c && !isBreak c then [c]
  else if n = 0x00 then ['\\', '0']
  else if n = 0x07 then ['\\', 'a']
  else if n = 0x08 then ['\\', 'b']
  else if n = 0x09 then ['\\', 't']
  else if n = 0x0A then ['\\', 'n']
  else if n = 0x0B then ['\\', 'v']
  else if n = 0x0C then ['\\', 'f']
  else if n = 0x0D then ['\\', 'r']
  else if n = 0x1B then ['\\', 'e']
  else if n = 0x85 then ['\\', 'N']
  else if n = 0x2028 then ['\\', 'L']
  else if n = 0x2029 then ['\\', 'P']
  else if n ≤ 0xFF then ['\\', 'x'] ++ upperHex 2 n
  else ['\\', 'u'] ++ upperHex 4 n

/-- The lines of a literal block; only a line with something on it is indented. -/
def literalChars (indent : Nat) : Bool → List Char → List Char
  | _, [] => []
  | broken, c :: cs =>
    if isBreak c then c :: literalChars indent true cs
    else (if broken then pad indent else []) ++ c :: literalChars indent false cs

/-- The width of an indentation that the first line does not show. -/
def indentHint : List Char → List Char
  | c :: _ => if c = ' ' || isBreak c then ['2'] else []
  | [] => []

/-- What becomes of the line breaks at the end: `-` if there are none, `+` to keep more than one,
and nothing for a single one. -/
def endHint (cs : List Char) : List Char :=
  match cs.reverse with
  | c :: d :: _ => if !isBreak c then ['-'] else if isBreak d then ['+'] else []
  | [c] => if isBreak c then ['+'] else ['-']
  | [] => ['-']

/-- A text in its style, where lines after the first are indented. -/
def scalar (indent : Nat) (s : String) : List Char :=
  let cs := s.toList
  match Style.of s with
  | .plain => cs
  | .singleQuoted => '\'' :: singleQuotedChars indent false cs ++ ['\'']
  | .doubleQuoted => '"' :: cs.flatMap escapedChar ++ ['"']
  | .literal => '|' :: indentHint cs ++ endHint cs ++ '\n' :: literalChars indent true cs

end Telemetry.Yaml

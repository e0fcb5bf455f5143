import Telemetry.Json.Value
import Telemetry.Number.Scientific

/-!
# JSON values from text

* `Json.Fault`: what is wrong with a text, and `Json.Fault.message` its wording.
* `Json.read`: the value a text writes, or the first fault in reading order. Of two members with one
  key the later counts. At most 127 lists and objects may stand inside each other.
* `Json.readLiteral`: the numbers. A number without point and exponent that fits 64 bits is an
  integer; any other is a float, `-0` included.
-/

namespace Telemetry.Json

/-- A fault of a JSON text. -/
inductive Fault where
  | valueUnfinished
  | stringUnfinished
  | listUnfinished
  | objectUnfinished
  | colonExpected
  | listSeparatorExpected
  | objectSeparatorExpected
  | valueExpected
  | wordExpected
  | escapeInvalid
  | numberInvalid
  | numberOutOfRange
  | controlInString
  | keyNotString
  | surrogateAlone
  | escapeUnfinished
  | commaTrailing
  | textTrailing
  | nestingTooDeep
  deriving DecidableEq

namespace Fault

/-- The wording of a fault. -/
def message : Fault → String
  | valueUnfinished => "EOF while parsing a value"
  | stringUnfinished => "EOF while parsing a string"
  | listUnfinished => "EOF while parsing a list"
  | objectUnfinished => "EOF while parsing an object"
  | colonExpected => "expected `:`"
  | listSeparatorExpected => "expected `,` or `]`"
  | objectSeparatorExpected => "expected `,` or `\x7d`"
  | valueExpected => "expected value"
  | wordExpected => "expected ident"
  | escapeInvalid => "invalid escape"
  | numberInvalid => "invalid number"
  | numberOutOfRange => "number out of range"
  | controlInString => "control character (\\u0000-\\u001F) found while parsing a string"
  | keyNotString => "key must be a string"
  | surrogateAlone => "lone leading surrogate in hex escape"
  | escapeUnfinished => "unexpected end of hex escape"
  | commaTrailing => "trailing comma"
  | textTrailing => "trailing characters"
  | nestingTooDeep => "recursion limit exceeded"

end Fault

/-- The blanks that may stand between the signs of a text. -/
def isSpace (c : Char) : Bool := c = ' ' || c = '\n' || c = '\t' || c = '\r'

def skipSpace (cs : List Char) : List Char := cs.dropWhile isSpace

/-- The rest of a word whose first letter has been read. -/
def readWord : List Char → List Char → Except Fault (List Char)
  | [], cs => .ok cs
  | _ :: _, [] => .error .valueUnfinished
  | w :: ws, c :: cs => if c = w then readWord ws cs else .error .wordExpected

/-! ## Numbers -/

/-- The digit a character stands for. -/
def digitOf (c : Char) : Nat := c.toNat - '0'.toNat

/-- The largest significand that is kept. -/
def significandLimit : Nat := Nat.pow 2 64

/-- Take digits into a significand as long as it stays below the limit: the significand, the number
of digits taken and the digits left over. -/
def absorb : Nat → Nat → List Char → Nat × Nat × List Char
  | significand, taken, [] => (significand, taken, [])
  | significand, taken, d :: ds =>
    let next := 10 * significand + digitOf d
    if next < significandLimit then absorb next (taken + 1) ds else (significand, taken, d :: ds)

/-- A float from its sign, significand and exponent. -/
def floatOf (negative : Bool) (significand : Nat) (exponent : Int) : Except Fault Json :=
  match Binary64.scaled? significand exponent with
  | some x => .ok (.float (if negative then x.neg else x))
  | none => .error .numberOutOfRange

/-- The largest exponent that is computed with. -/
def exponentLimit : Nat := Nat.pow 2 31 - 1

/-- The exponent part of a number, after its `e`. -/
def readExponent (negative : Bool) (significand : Nat) (exponent : Int) (cs : List Char) :
    Except Fault (Json × List Char) := do
  let (minus, cs) := match cs with
    | '+' :: rest => (false, rest)
    | '-' :: rest => (true, rest)
    | _ => (false, cs)
  let digits := cs.takeWhile Char.isDigit
  let rest := cs.dropWhile Char.isDigit
  if digits.isEmpty then
    throw (if cs.isEmpty then .valueUnfinished else .numberInvalid)
  let e := digits.foldl (fun n d => 10 * n + digitOf d) 0
  if exponentLimit < e then
    if significand ≠ 0 ∧ !minus then throw .numberOutOfRange
    return (.float (.ofMagnitude negative 0), rest)
  let v ← floatOf negative significand (if minus then exponent - e else exponent + e)
  return (v, rest)

/-- What follows the digits of a float. -/
def readFloatEnd (negative : Bool) (significand : Nat) (exponent : Int) (cs : List Char) :
    Except Fault (Json × List Char) :=
  match cs with
  | 'e' :: rest => readExponent negative significand exponent rest
  | 'E' :: rest => readExponent negative significand exponent rest
  | _ => (floatOf negative significand exponent).map (·, cs)

/-- The digits after a point. Digits that no longer fit the significand are dropped. -/
def readFraction (negative : Bool) (significand : Nat) (exponent : Int) (cs : List Char) :
    Except Fault (Json × List Char) :=
  let digits := cs.takeWhile Char.isDigit
  let rest := cs.dropWhile Char.isDigit
  if digits.isEmpty then .error (if cs.isEmpty then .valueUnfinished else .numberInvalid)
  else
    let (significand, taken, _) := absorb significand 0 digits
    readFloatEnd negative significand (exponent - taken) rest

/-- An integer that fits 64 bits, or the float for `-0` and for one that fits only without sign. -/
def integerOf (negative : Bool) (n : Nat) : Json :=
  if !negative then .int n
  else if n = 0 ∨ Nat.pow 2 63 < n then .float (.ofRatio true n 1)
  else .int (-n)

/-- A number, after its sign. -/
def readNumber (negative : Bool) (cs : List Char) : Except Fault (Json × List Char) :=
  match cs with
  | [] => .error .valueUnfinished
  | '0' :: rest =>
    match rest with
    | '.' :: rest => readFraction negative 0 0 rest
    | 'e' :: _ => readFloatEnd negative 0 0 rest
    | 'E' :: _ => readFloatEnd negative 0 0 rest
    | c :: _ => if c.isDigit then .error .numberInvalid else .ok (integerOf negative 0, rest)
    | [] => .ok (integerOf negative 0, [])
  | c :: _ =>
    if !c.isDigit then .error .numberInvalid
    else
      let (significand, _, dropped) := absorb 0 0 (cs.takeWhile Char.isDigit)
      let rest := cs.dropWhile Char.isDigit
      match rest with
      | '.' :: rest => readFraction negative significand dropped.length rest
      | 'e' :: _ => readFloatEnd negative significand dropped.length rest
      | 'E' :: _ => readFloatEnd negative significand dropped.length rest
      | _ =>
        if dropped.isEmpty then .ok (integerOf negative significand, rest)
        else readFloatEnd negative significand dropped.length rest

/-! ## Strings -/

/-- The value of a hexadecimal digit of either case. -/
def hexValue? (c : Char) : Option Nat :=
  if c.isDigit then some (c.toNat - '0'.toNat)
  else if 'a' ≤ c ∧ c ≤ 'f' then some (c.toNat - 'a'.toNat + 10)
  else if 'A' ≤ c ∧ c ≤ 'F' then some (c.toNat - 'A'.toNat + 10)
  else none

/-- Four hexadecimal digits. With fewer than four bytes left the string is unfinished. -/
def readHex (cs : List Char) : Except Fault (Nat × List Char) :=
  match cs with
  | a :: b :: c :: d :: rest =>
    match hexValue? a, hexValue? b, hexValue? c, hexValue? d with
    | some a, some b, some c, some d => .ok (((a * 16 + b) * 16 + c) * 16 + d, rest)
    | _, _, _, _ => .error .escapeInvalid
  | _ =>
    if 4 ≤ cs.foldl (fun n c => n + c.utf8Size) 0 then .error .escapeInvalid
    else .error .stringUnfinished

/-- A character by number, after `\u`. One beyond 16 bits is written as two surrogates. -/
def readUnicode (cs : List Char) : Except Fault (Char × List Char) := do
  let (n, cs) ← readHex cs
  if 0xDC00 ≤ n ∧ n ≤ 0xDFFF then throw .surrogateAlone
  if n < 0xD800 ∨ 0xDBFF < n then return (Char.ofNat n, cs)
  match cs with
  | [] => throw .stringUnfinished
  | '\\' :: [] => throw .stringUnfinished
  | '\\' :: 'u' :: cs =>
    let (m, cs) ← readHex cs
    if m < 0xDC00 ∨ 0xDFFF < m then throw .surrogateAlone
    return (Char.ofNat ((n - 0xD800) * 0x400 + (m - 0xDC00) + 0x10000), cs)
  | _ => throw .escapeUnfinished

/-- A character after a backslash. -/
def readEscape (cs : List Char) : Except Fault (Char × List Char) :=
  match cs with
  | [] => .error .stringUnfinished
  | '"' :: cs => .ok ('"', cs)
  | '\\' :: cs => .ok ('\\', cs)
  | '/' :: cs => .ok ('/', cs)
  | 'b' :: cs => .ok ('\x08', cs)
  | 'f' :: cs => .ok ('\x0c', cs)
  | 'n' :: cs => .ok ('\n', cs)
  | 'r' :: cs => .ok ('\r', cs)
  | 't' :: cs => .ok ('\t', cs)
  | 'u' :: cs => readUnicode cs
  | _ => .error .escapeInvalid

/-- The characters of a string up to its closing quote; `done` holds those read, in reverse. Every
step reads a character, so that the length of the text is fuel enough. -/
def readStringFrom : Nat → List Char → List Char → Except Fault (String × List Char)
  | 0, _, _ => .error .stringUnfinished
  | _ + 1, _, [] => .error .stringUnfinished
  | fuel + 1, done, c :: cs =>
    if c = '"' then .ok (String.ofList done.reverse, cs)
    else if c = '\\' then do
      let (e, cs) ← readEscape cs
      readStringFrom fuel (e :: done) cs
    else if c.toNat < 0x20 then .error .controlInString
    else readStringFrom fuel (c :: done) cs

/-- A string, after its opening quote. -/
def readString (cs : List Char) : Except Fault (String × List Char) :=
  readStringFrom (cs.length + 1) [] cs

/-! ## Values -/

/-- A value that starts with this sign and holds no other value. -/
def readLiteral (c : Char) (cs : List Char) : Except Fault (Json × List Char) :=
  if c = 'n' then (readWord ['u', 'l', 'l'] cs).map (.null, ·)
  else if c = 't' then (readWord ['r', 'u', 'e'] cs).map (.bool true, ·)
  else if c = 'f' then (readWord ['a', 'l', 's', 'e'] cs).map (.bool false, ·)
  else if c = '-' then readNumber true cs
  else if c.isDigit then readNumber false (c :: cs)
  else if c = '"' then (readString cs).map fun (s, rest) => (.text s, rest)
  else .error .valueExpected

mutual

/-- A value. `depth` lists and objects may still be entered. -/
def readValue : Nat → Nat → List Char → Except Fault (Json × List Char)
  | 0, _, _ => .error .valueUnfinished
  | fuel + 1, depth, cs =>
    match skipSpace cs with
    | [] => .error .valueUnfinished
    | '[' :: cs =>
      match depth with
      | 0 => .error .nestingTooDeep
      | depth + 1 => readItems fuel depth true [] cs
    | '\x7b' :: cs =>
      match depth with
      | 0 => .error .nestingTooDeep
      | depth + 1 => readMembers fuel depth true [] cs
    | c :: cs => readLiteral c cs

/-- The items of a list up to its closing bracket; `done` holds those read, in reverse. -/
def readItems : Nat → Nat → Bool → List Json → List Char → Except Fault (Json × List Char)
  | 0, _, _, _, _ => .error .listUnfinished
  | fuel + 1, depth, first, done, cs =>
    match skipSpace cs with
    | [] => .error .listUnfinished
    | ']' :: cs => .ok (.list done.reverse, cs)
    | c :: cs =>
      if first then do
        let (v, cs) ← readValue fuel depth (c :: cs)
        readItems fuel depth false (v :: done) cs
      else if c = ',' then
        match skipSpace cs with
        | [] => .error .valueUnfinished
        | ']' :: _ => .error .commaTrailing
        | cs => do
          let (v, cs) ← readValue fuel depth cs
          readItems fuel depth false (v :: done) cs
      else .error .listSeparatorExpected

/-- The members of an object up to its closing brace. -/
def readMembers : Nat → Nat → Bool → Entries Json → List Char → Except Fault (Json × List Char)
  | 0, _, _, _, _ => .error .objectUnfinished
  | fuel + 1, depth, first, done, cs =>
    match skipSpace cs with
    | [] => .error .objectUnfinished
    | '\x7d' :: cs => .ok (.object done, cs)
    | c :: cs =>
      if first then readMember fuel depth done (c :: cs)
      else if c = ',' then
        match skipSpace cs with
        | [] => .error .valueUnfinished
        | '\x7d' :: _ => .error .commaTrailing
        | cs => readMember fuel depth done cs
      else .error .objectSeparatorExpected

/-- One member and those after it. -/
def readMember : Nat → Nat → Entries Json → List Char → Except Fault (Json × List Char)
  | 0, _, _, _ => .error .objectUnfinished
  | fuel + 1, depth, done, cs =>
    match cs with
    | '"' :: cs => do
      let (key, cs) ← readString cs
      match skipSpace cs with
      | [] => .error .objectUnfinished
      | ':' :: cs =>
        let (v, cs) ← readValue fuel depth cs
        readMembers fuel depth false (done.insert key v) cs
      | _ => .error .colonExpected
    | _ => .error .keyNotString

end

/-- How many lists and objects may stand inside each other. -/
def nestingLimit : Nat := 127

/-- The value that a text writes, with at most `depth` lists and objects inside each other. Every
step of reading takes a character or goes one level deeper, so that three steps for each character
are enough. -/
def readWithin (depth : Nat) (s : String) : Except Fault Json := do
  let cs := s.toList
  let (v, rest) ← readValue (3 * cs.length + 3) depth cs
  if (skipSpace rest).isEmpty then return v else throw .textTrailing

/-- The value that a text writes. -/
def read (s : String) : Except Fault Json := readWithin nestingLimit s

end Telemetry.Json

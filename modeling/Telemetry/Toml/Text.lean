import Telemetry.Json.Reader
import Telemetry.Toml.Fault

/-!
# Blanks, comments, strings and keys

* `skipBlanks`, `lineEnd`, `skipLines`: what stands between the signs of a text.
* `readText`: a string of one of the four kinds.
* `readKeyPath`: keys that are joined by points.
-/

namespace Telemetry.Toml

/-! ## Between the signs -/

/-- What follows a sign, if the sign is there. -/
def after? (sign : Char) : List Char → Option (List Char)
  | c :: cs => if c = sign then some cs else none
  | [] => none

/-- What follows a sign that has to be there. -/
def expect (sign : Char) (cs : List Char) : Except Fault (List Char) :=
  match after? sign cs with
  | some cs => .ok cs
  | none => .error (.signExpected sign)

/-- Spaces and tabs. -/
def isGap (c : Char) : Bool := c = ' ' || c = '\t'

def skipBlanks (cs : List Char) : List Char := cs.dropWhile isGap

/-- A character that may stand in comments and strings. -/
def isPrintable (c : Char) : Bool := c = '\t' || (0x20 ≤ c.toNat && c.toNat ≠ 0x7F)

/-- What follows a line break, if there is one. -/
def afterBreak? : List Char → Option (List Char)
  | '\n' :: cs => some cs
  | '\r' :: '\n' :: cs => some cs
  | _ => none

/-- What follows a comment, if there is one. -/
def skipComment : List Char → List Char
  | '#' :: cs => cs.dropWhile isPrintable
  | cs => cs

/-- The rest of a line: blanks, a comment, and a line break or the end of the text. -/
def lineEnd (cs : List Char) : Except Fault (List Char) :=
  match skipComment (skipBlanks cs) with
  | [] => .ok []
  | cs =>
    match afterBreak? cs with
    | some cs => .ok cs
    | none => .error .lineEndExpected

/-- Blanks, comments and line breaks; a comment may also end with the text. Every round takes a
line, so that the length of the text is fuel enough. -/
def skipLinesFrom : Nat → List Char → Except Fault (List Char)
  | 0, cs => .ok cs
  | fuel + 1, cs =>
    let cs := skipBlanks cs
    match cs with
    | '#' :: _ =>
      match skipComment cs with
      | [] => .ok []
      | cs =>
        match afterBreak? cs with
        | some cs => skipLinesFrom fuel cs
        | none => .error .lineEndExpected
    | _ =>
      match afterBreak? cs with
      | some cs => skipLinesFrom fuel cs
      | none => .ok cs

def skipLines (cs : List Char) : Except Fault (List Char) := skipLinesFrom (cs.length + 1) cs

/-! ## Strings -/

/-- A character by number, in a fixed count of hexadecimal digits. -/
def readScalar (count : Nat) (cs : List Char) : Except Fault (Char × List Char) := do
  let digits := (cs.take count).filterMap Json.hexValue?
  if digits.length < count then throw .escapeInvalid
  let n := digits.foldl (fun n d => 16 * n + d) 0
  if n < 0xD800 ∨ (0xDFFF < n ∧ n ≤ 0x10FFFF) then return (Char.ofNat n, cs.drop count)
  throw .escapeInvalid

/-- A character after a backslash. -/
def readEscape : List Char → Except Fault (Char × List Char)
  | '"' :: cs => .ok ('"', cs)
  | '\\' :: cs => .ok ('\\', cs)
  | 'b' :: cs => .ok ('\x08', cs)
  | 'f' :: cs => .ok ('\x0c', cs)
  | 'n' :: cs => .ok ('\n', cs)
  | 'r' :: cs => .ok ('\r', cs)
  | 't' :: cs => .ok ('\t', cs)
  | 'u' :: cs => readScalar 4 cs
  | 'U' :: cs => readScalar 8 cs
  | _ => .error .escapeInvalid

/-- The characters of a string on one line up to its closing quote; `done` holds those read, in
reverse. Only between double quotes are there escapes. -/
def readLineText (quote : Char) : Nat → List Char → List Char → Except Fault (String × List Char)
  | 0, _, _ => .error .textUnfinished
  | _ + 1, _, [] => .error .textUnfinished
  | fuel + 1, done, c :: cs =>
    if c = quote then .ok (String.ofList done.reverse, cs)
    else if c = '\\' ∧ quote = '"' then do
      let (e, cs) ← readEscape cs
      readLineText quote fuel (e :: done) cs
    else if isPrintable c then readLineText quote fuel (c :: done) cs
    else .error .characterInvalid

/-- How many quotes a text starts with. -/
def leadingQuotes (quote : Char) (cs : List Char) : Nat := (cs.takeWhile (· = quote)).length

/-- What follows a backslash at the end of a line: the next line that is not blank. -/
def afterContinuation? (cs : List Char) : Option (List Char) :=
  (afterBreak? (skipBlanks cs)).map fun cs =>
    cs.dropWhile fun c => isGap c || c = '\n' || c = '\r'

/-- The characters of a string over several lines up to its three closing quotes, before which up to
two quotes may stand. -/
def readBlockText (quote : Char) : Nat → List Char → List Char → Except Fault (String × List Char)
  | 0, _, _ => .error .textUnfinished
  | _ + 1, _, [] => .error .textUnfinished
  | fuel + 1, done, c :: cs =>
    if c = quote then
      let n := leadingQuotes quote (c :: cs)
      if n < 3 then readBlockText quote fuel (List.replicate n quote ++ done) ((c :: cs).drop n)
      else
        let kept := min (n - 3) 2
        let done := List.replicate kept quote ++ done
        .ok (String.ofList done.reverse, (c :: cs).drop (kept + 3))
    else if c = '\\' ∧ quote = '"' then
      match afterContinuation? cs with
      | some cs => readBlockText quote fuel done cs
      | none => do
        let (e, cs) ← readEscape cs
        readBlockText quote fuel (e :: done) cs
    else if isPrintable c then readBlockText quote fuel (c :: done) cs
    else
      match afterBreak? (c :: cs) with
      | some cs => readBlockText quote fuel ('\n' :: done) cs
      | none => .error .characterInvalid

/-- A string, after its first quote. A line break right after three opening quotes is dropped. -/
def readText (quote : Char) (cs : List Char) : Except Fault (String × List Char) :=
  match cs with
  | c :: d :: rest =>
    if c = quote ∧ d = quote then
      readBlockText quote (rest.length + 1) [] ((afterBreak? rest).getD rest)
    else readLineText quote (cs.length + 1) [] cs
  | _ => readLineText quote (cs.length + 1) [] cs

/-! ## Keys -/

/-- The characters of a key without quotes. -/
def isKeyChar (c : Char) : Bool := c.isAlphanum || c = '_' || c = '-'

/-- One key. -/
def readKey : List Char → Except Fault (String × List Char)
  | '"' :: cs => readLineText '"' (cs.length + 1) [] cs
  | '\'' :: cs => readLineText '\'' (cs.length + 1) [] cs
  | cs =>
    match cs.takeWhile isKeyChar with
    | [] => .error .keyExpected
    | key => .ok (String.ofList key, cs.dropWhile isKeyChar)

/-- Keys that are joined by points, with blanks around them. Every key takes a character. -/
def readKeysFrom : Nat → List Char → Except Fault (List String × List Char)
  | 0, _ => .error .keyExpected
  | fuel + 1, cs => do
    let (key, cs) ← readKey (skipBlanks cs)
    match skipBlanks cs with
    | '.' :: cs =>
      let (keys, cs) ← readKeysFrom fuel cs
      return (key :: keys, cs)
    | cs => return ([key], cs)

/-- How many keys may be joined, and how many lists and inline tables may stand inside each other.
-/
def nestingLimit : Nat := 79

/-- Keys that are joined by points: those of the tables, and the last one. -/
def readKeyPath (cs : List Char) : Except Fault ((List String × String) × List Char) := do
  let (keys, cs) ← readKeysFrom (cs.length + 1) cs
  if nestingLimit < keys.length then throw .nestingTooDeep
  match keys.getLast? with
  | some key => return ((keys.dropLast, key), cs)
  | none => throw .keyExpected

end Telemetry.Toml

import Telemetry.Json.Decode

/-!
# Typed values off a text

A value of a known type is read off a text without the value as a whole, so that a fault of its type
counts as soon as it shows. Members that the type has no field for are passed over: they have to look
like values, but their numbers may be out of range, their strings may have halves of surrogates, and
they may be nested without limit.

* `Json.skipValue`: the text behind a value that is not needed.
* `Json.readTextValue`, `Json.readOptional`, `Json.readAny`: the values of fields.
* `Json.nextItem`, `Json.endList`: the signs between the items of a list.
* `Json.nextMember`, `Json.readKey`, `Json.pastColon`, `Json.endObject`: those of an object.
-/

namespace Telemetry.Json

/-! ## Values that are not needed -/

/-- The text behind digits, of which there has to be one. -/
def skipDigits : List Char → Except Fault (List Char)
  | [] => .error .numberInvalid
  | c :: cs => if c.isDigit then .ok (cs.dropWhile Char.isDigit) else .error .numberInvalid

/-- The text behind the exponent of a number, from its sign on. -/
def skipExponent : List Char → Except Fault (List Char)
  | '+' :: cs => skipDigits cs
  | '-' :: cs => skipDigits cs
  | cs => skipDigits cs

/-- The text behind a number whose digits have been passed. -/
def skipNumberEnd : List Char → Except Fault (List Char)
  | 'e' :: cs => skipExponent cs
  | 'E' :: cs => skipExponent cs
  | cs => .ok cs

/-- The text behind the digits of a number that has no zero in front. -/
def skipWhole : List Char → Except Fault (List Char)
  | '0' :: c :: cs => if c.isDigit then .error .numberInvalid else .ok (c :: cs)
  | cs => skipDigits cs

/-- The text behind a number, after its sign. -/
def skipNumber (cs : List Char) : Except Fault (List Char) := do
  match ← skipWhole cs with
  | '.' :: cs => skipNumberEnd (← skipDigits cs)
  | cs => skipNumberEnd cs

/-- The text behind an escape, after its backslash. Any four digits make a character. -/
def skipEscape : List Char → Except Fault (List Char)
  | [] => .error .stringUnfinished
  | 'u' :: cs => (readHex cs).map (·.2)
  | c :: cs =>
    if c ∈ ['"', '\\', '/', 'b', 'f', 'n', 'r', 't'] then .ok cs else .error .escapeInvalid

/-- The text behind the closing quote of a string. Every step passes a character. -/
def skipStringFrom : Nat → List Char → Except Fault (List Char)
  | 0, _ => .error .stringUnfinished
  | _ + 1, [] => .error .stringUnfinished
  | fuel + 1, c :: cs =>
    if c = '"' then .ok cs
    else if c = '\\' then do skipStringFrom fuel (← skipEscape cs)
    else if c.toNat < 0x20 then .error .controlInString
    else skipStringFrom fuel cs

/-- The text behind a string, after its opening quote. -/
def skipString (cs : List Char) : Except Fault (List Char) := skipStringFrom (cs.length + 1) cs

/-- The text behind a value that starts with this sign and holds no other value. -/
def skipLiteral (c : Char) (cs : List Char) : Except Fault (List Char) :=
  if c = 'n' then readWord ['u', 'l', 'l'] cs
  else if c = 't' then readWord ['r', 'u', 'e'] cs
  else if c = 'f' then readWord ['a', 'l', 's', 'e'] cs
  else if c = '-' then skipNumber cs
  else if c.isDigit then skipNumber (c :: cs)
  else if c = '"' then skipString cs
  else .error .valueExpected

mutual

/-- The text behind a value. -/
def skipValueFrom : Nat → List Char → Except Fault (List Char)
  | 0, _ => .error .valueUnfinished
  | fuel + 1, cs =>
    match skipSpace cs with
    | [] => .error .valueUnfinished
    | '[' :: cs =>
      match skipSpace cs with
      | [] => .error .listUnfinished
      | ']' :: cs => .ok cs
      | cs => skipItems fuel cs
    | '\x7b' :: cs =>
      match skipSpace cs with
      | [] => .error .objectUnfinished
      | '\x7d' :: cs => .ok cs
      | cs => skipMembers fuel cs
    | c :: cs => skipLiteral c cs

/-- The text behind a list whose next item is here. -/
def skipItems : Nat → List Char → Except Fault (List Char)
  | 0, _ => .error .listUnfinished
  | fuel + 1, cs => do
    let cs ← skipValueFrom fuel cs
    match skipSpace cs with
    | [] => .error .listUnfinished
    | ']' :: cs => .ok cs
    | ',' :: cs => skipItems fuel cs
    | _ => .error .listSeparatorExpected

/-- The text behind an object whose next member is here. -/
def skipMembers : Nat → List Char → Except Fault (List Char)
  | 0, _ => .error .objectUnfinished
  | fuel + 1, cs =>
    match skipSpace cs with
    | [] => .error .objectUnfinished
    | '"' :: cs => do
      let cs ← skipString cs
      match skipSpace cs with
      | [] => .error .objectUnfinished
      | ':' :: cs =>
        let cs ← skipValueFrom fuel cs
        match skipSpace cs with
        | [] => .error .objectUnfinished
        | '\x7d' :: cs => .ok cs
        | ',' :: cs => skipMembers fuel cs
        | _ => .error .objectSeparatorExpected
      | _ => .error .colonExpected
    | _ => .error .keyNotString

end

/-- The text behind a value that is not needed. Every two steps pass a character. -/
def skipValue (cs : List Char) : Except Fault (List Char) := skipValueFrom (2 * cs.length + 2) cs

/-! ## Values of fields -/

/-- How a value of a type is read: the value and the text behind it. -/
abbrev Reader (α : Type) := List Char → Except TextFault (α × List Char)

/-- What is read without regard to a type. -/
def plain {α : Type} (x : Except Fault α) : Except TextFault α := x.mapError .unreadable

/-- A string. -/
def readTextValue (cs : List Char) : Except TextFault (String × List Char) :=
  match skipSpace cs with
  | '"' :: cs => plain (readString cs)
  | cs => .error (otherType .text cs)

/-- An optional value: null stands for an absent one. -/
def readOptional {α : Type} (read : Reader α) (cs : List Char) :
    Except TextFault (Option α × List Char) :=
  match skipSpace cs with
  | 'n' :: cs => (plain (readWord ['u', 'l', 'l'] cs)).map (none, ·)
  | cs => (read cs).map fun (x, cs) => (some x, cs)

/-- A value of any type, inside of `outer` lists and objects. -/
def readAny (outer : Nat) (cs : List Char) : Except TextFault (Json × List Char) :=
  plain (readValue (3 * cs.length + 3) (nestingLimit - outer) cs)

/-! ## Signs between them -/

/-- The next item of a list or member of an object, if there is one. The closing sign is left. -/
def nextEntry (close : Char) (unfinished separator : Fault) (first : Bool) (cs : List Char) :
    Except TextFault (Option (List Char)) :=
  match skipSpace cs with
  | [] => .error (.unreadable unfinished)
  | c :: cs =>
    if c = close then .ok none
    else if first then .ok (some (c :: cs))
    else if c = ',' then
      match skipSpace cs with
      | [] => .error (.unreadable .valueUnfinished)
      | c :: cs =>
        if c = close then .error (.unreadable .commaTrailing) else .ok (some (c :: cs))
    else .error (.unreadable separator)

def nextItem : Bool → List Char → Except TextFault (Option (List Char)) :=
  nextEntry ']' .listUnfinished .listSeparatorExpected

def nextMember : Bool → List Char → Except TextFault (Option (List Char)) :=
  nextEntry '\x7d' .objectUnfinished .objectSeparatorExpected

/-- The text behind a sign that has to be next; `fault` is the fault of other signs. -/
def pastSign (sign : Char) (unfinished : Fault) (fault : List Char → Fault) (cs : List Char) :
    Except TextFault (List Char) :=
  match skipSpace cs with
  | [] => .error (.unreadable unfinished)
  | c :: cs => if c = sign then .ok cs else .error (.unreadable (fault (c :: cs)))

/-- The text behind a list that may have no more items. -/
def endList : List Char → Except TextFault (List Char) :=
  pastSign ']' .listUnfinished fun
    | ',' :: cs => if (skipSpace cs).head? = some ']' then .commaTrailing else .textTrailing
    | _ => .textTrailing

/-- The text behind an object that may have no more members. -/
def endObject : List Char → Except TextFault (List Char) :=
  pastSign '\x7d' .objectUnfinished fun
    | ',' :: _ => .commaTrailing
    | _ => .textTrailing

/-- The text behind the colon of a member. -/
def pastColon : List Char → Except TextFault (List Char) :=
  pastSign ':' .objectUnfinished fun _ => .colonExpected

/-- The key of a member. -/
def readKey : Reader String
  | '"' :: cs => plain (readString cs)
  | _ => .error (.unreadable .keyNotString)

end Telemetry.Json

import Telemetry.Number.Text
import Telemetry.Text.Percent

/-!
# Addresses of resources

* `Url.parse`: the address that a text writes. Letters of the scheme and the host become small, dots
  in a path are resolved, a port that the scheme implies is left out, and credentials are dropped.
* `Url.text`: the normal form of an address.

Hosts are names in ASCII, or numbers of the fourth or sixth version of the internet protocol.
-/

namespace Telemetry

/-- Where a resource is. -/
structure Url where
  secure : Bool
  host : String
  port : Option Nat
  /-- The path from the root on. -/
  path : List String
  query : Option String
  fragment : Option String
  deriving DecidableEq

/-- Why a text writes no address. -/
inductive UrlFault where
  | malformed
  /-- The scheme is not one of the hypertext protocol. -/
  | otherScheme (text : String)
  deriving DecidableEq

namespace Url

/-- The name of the scheme. -/
def scheme (u : Url) : String := if u.secure then "https" else "http"

/-- The port that a scheme implies. -/
def impliedPort (secure : Bool) : Nat := if secure then 443 else 80

/-- The port that is used. -/
def effectivePort (u : Url) : Nat := u.port.getD (impliedPort u.secure)

/-- The path with the query, which a server is asked for. -/
def resource (u : Url) : String :=
  "/" ++ "/".intercalate u.path ++ (u.query.map ("?" ++ ·)).getD ""

/-- The host with the port, if it is not implied. -/
def authority (u : Url) : String := u.host ++ (u.port.map fun p => s!":{p}").getD ""

/-- The normal form of an address. -/
def text (u : Url) : String :=
  u.scheme ++ "://" ++ u.authority ++ u.resource ++ (u.fragment.map ("#" ++ ·)).getD ""

/-! ## Hosts -/

/-- The characters that no host has. -/
def isForbidden (c : Char) : Bool :=
  c.toNat ≤ 0x20 || 0x7F ≤ c.toNat || " #/:<>?@[\\]^|%".toList.contains c

/-- The value of digits in a base; none if there are other characters. -/
def digitsValue? (base : Nat) (cs : List Char) : Option Nat :=
  cs.foldlM (fun n c =>
    let value := if c.isDigit then c.toNat - '0'.toNat else c.toLower.toNat - 'a'.toNat + 10
    if c.isAlphanum && value < base then some (n * base + value) else none) 0

/-- A number as it may stand in a host: hexadecimal behind `0x`, octal behind `0`, else decimal. -/
def hostNumber? : List Char → Option Nat
  | [] => none
  | '0' :: 'x' :: cs => digitsValue? 16 cs
  | '0' :: c :: cs => digitsValue? 8 (c :: cs)
  | cs => digitsValue? 10 cs

/-- A host is a number if its last label is one. -/
def isNumeric (labels : List (List Char)) : Bool :=
  match labels.getLast? with
  | some cs => (!cs.isEmpty && cs.all Char.isDigit) || (hostNumber? cs).isSome
  | none => false

/-- The number of the parts of a host: one for each byte, and the last for all bytes that are left.
-/
def numberOfParts? : List Nat → Nat → Option Nat
  | [], _ => none
  | [last], left => if last < Nat.pow 256 left then some last else none
  | part :: parts, left =>
    match left with
    | 0 => none
    | left + 1 =>
      if part < 256 then (numberOfParts? parts left).map (part * Nat.pow 256 left + ·) else none

/-- A number as four bytes. -/
def dotted (n : Nat) : String :=
  s!"{n / 16777216}.{n / 65536 % 256}.{n / 256 % 256}.{n % 256}"

/-- The labels of a host, without an empty one at its end. -/
def hostLabels (cs : List Char) : List (List Char) :=
  match (cs.splitOn '.').reverse with
  | [] :: ls@(_ :: _) => ls.reverse
  | ls => ls.reverse

/-- The normal form of a host. -/
def readHost? (cs : List Char) : Option String :=
  match cs with
  | '[' :: rest =>
    let inner := rest.takeWhile (· ≠ ']')
    let plain (c : Char) : Bool := (digitsValue? 16 [c]).isSome || c == ':' || c == '.'
    if rest.dropWhile (· ≠ ']') = [']'] && inner.contains ':' && inner.all plain then
      some (String.ofList (cs.map Char.toLower))
    else none
  | _ =>
    let cs := cs.map Char.toLower
    let labels := hostLabels cs
    if cs.isEmpty || cs.any isForbidden then none
    else if isNumeric labels then do
      let parts ← labels.mapM hostNumber?
      dotted <$> numberOfParts? parts 4
    else some (String.ofList cs)

/-! ## Ports, paths and the rest -/

/-- A port; one that the scheme implies is left out. -/
def readPort? (secure : Bool) (cs : List Char) : Option (Option Nat) :=
  if cs.isEmpty then some none
  else if cs.all Char.isDigit then do
    let n ← digitsValue? 10 cs
    if n ≤ 65535 then some (if n = impliedPort secure then none else some n) else none
  else none

/-- The host and the port of an authority, whose credentials are dropped. -/
def readAuthority? (secure : Bool) (cs : List Char) : Option (String × Option Nat) := do
  let cs := (cs.reverse.takeWhile (· ≠ '@')).reverse
  let colon (c : Char) : Bool := c == ':'
  let (host, rest) :=
    if cs.head? = some '[' then
      let inner := cs.takeWhile (· ≠ ']')
      (inner ++ (cs.drop inner.length).take 1, cs.drop (inner.length + 1))
    else (cs.takeWhile (!colon ·), cs.dropWhile (!colon ·))
  let host ← readHost? host
  match rest with
  | [] => some (host, none)
  | ':' :: port => (readPort? secure port).map (host, ·)
  | _ => none

/-- Characters that stand for themselves in a part of an address, which are those of ASCII but for
controls, blanks and some others. -/
def isPlainExcept (others : String) (c : Char) : Bool :=
  0x20 < c.toNat && c.toNat < 0x7F && !others.toList.contains c

/-- The steps of a path; one dot stays where it is, and two dots go back. -/
def resolve (done : List String) : List (List Char) → List String
  | [] => done.reverse
  | cs :: rest =>
    let name := String.ofList (Percent.encodeExcept (isPlainExcept "\"#<>?\x60\x7b\x7d") cs)
    let plain := ((name.replace "%2e" ".").replace "%2E" ".")
    let done := if plain = ".." then done.tail else done
    if plain = "." || plain = ".." then resolve (if rest.isEmpty then "" :: done else done) rest
    else resolve (name :: done) rest

/-- The path of the characters behind an authority. -/
def readPath (cs : List Char) : List String :=
  let cs := cs.map fun c => if c = '\\' then '/' else c
  resolve [] ((cs.drop 1).splitOn '/')

/-- The characters before and behind the first one that is `mark`, if it is there. -/
def cut (mark : Char) (cs : List Char) : List Char × Option (List Char) :=
  match cs.dropWhile (· ≠ mark) with
  | [] => (cs, none)
  | _ :: rest => (cs.takeWhile (· ≠ mark), some rest)

/-- A text without controls and blanks around it, and without line breaks and tabs. -/
def cleaned (s : String) : List Char :=
  let outer (c : Char) : Bool := c.toNat ≤ 0x20
  let cs := (((s.toList.dropWhile outer).reverse).dropWhile outer).reverse
  cs.filter fun c => c ≠ '\t' && c ≠ '\n' && c ≠ '\r'

/-- What may stand in the name of a scheme. -/
def isSchemeChar (c : Char) : Bool := c.isAlphanum || c == '+' || c == '-' || c == '.'

/-- An optional part of an address. -/
def encodedPart (others : String) (part : Option (List Char)) : Option String :=
  part.map fun cs => String.ofList (Percent.encodeExcept (isPlainExcept others) cs)

/-- The address behind its scheme. -/
def readRest? (secure : Bool) (cs : List Char) : Option Url := do
  let slash (c : Char) : Bool := c == '/' || c == '\\'
  let (cs, fragment) := cut '#' (cs.dropWhile slash)
  let (cs, query) := cut '?' cs
  let (host, port) ← readAuthority? secure (cs.takeWhile (!slash ·))
  return ⟨secure, host, port, readPath (cs.dropWhile (!slash ·)), encodedPart "\"#<>'" query,
    encodedPart "\"<>\x60" fragment⟩

/-- The address that a text writes. -/
def parse (s : String) : Except UrlFault Url :=
  let cs := cleaned s
  let name := (cs.takeWhile isSchemeChar).map Char.toLower
  match cs.drop name.length, (name.head?.map Char.isAlpha).getD false with
  | ':' :: rest, true =>
    let scheme := String.ofList name
    if scheme = "http" ∨ scheme = "https" then
      match readRest? (scheme = "https") rest with
      | some u => .ok u
      | none => .error .malformed
    else .error (.otherScheme (scheme ++ ":" ++ String.ofList rest))
  | _, _ => .error .malformed

end Url

end Telemetry

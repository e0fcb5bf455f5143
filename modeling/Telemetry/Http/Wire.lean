import Telemetry.Http.Request
import Telemetry.Json.Writer

/-!
# Messages as bytes

* `HttpRequest.bytes`: a request as it is sent to a server that closes the connection afterwards.
* `HttpResponse.ofBytes?`: the response that a server has sent. The body ends where the headers say,
  or else at the end of the connection; if that came too early, there is no body.
-/

namespace Telemetry

namespace HttpRequest

/-- The lines before the body. -/
def head (r : HttpRequest) (address : Url) (length : Nat) : List String :=
  [r.method.name ++ " " ++ address.resource ++ " HTTP/1.1", "host: " ++ address.authority] ++
    r.headers.map (fun h => h.1 ++ ": " ++ h.2) ++
    [s!"content-length: {length}", "connection: close", "", ""]

/-- The bytes of a request. -/
def bytes (r : HttpRequest) (address : Url) : ByteArray :=
  let body := (r.body.map Json.compact).getD ""
  ("\r\n".intercalate (r.head address body.utf8ByteSize) ++ body).toUTF8

end HttpRequest

namespace HttpResponse

/-- The bytes of the end of a line. -/
def lineEnd : List UInt8 := [13, 10]

/-- The text of bytes; what is no text is replaced. -/
def text (bytes : List UInt8) : String :=
  match String.fromUTF8? ⟨bytes.toArray⟩ with
  | some s => s
  | none => String.ofList (bytes.map fun b => if b < 0x80 then Char.ofNat b.toNat else '\uFFFD')

/-- The bytes before and behind the first occurrence of a mark. -/
def cut? (mark : List UInt8) : List UInt8 → Option (List UInt8 × List UInt8)
  | [] => none
  | b :: bytes =>
    if mark.isPrefixOf (b :: bytes) then some ([], (b :: bytes).drop mark.length)
    else (cut? mark bytes).map fun (before, behind) => (b :: before, behind)

/-- A header by name, in small letters. -/
def header? (line : String) : Option (String × String) :=
  match line.splitOn ":" with
  | name :: value@(_ :: _) => some (name.toLower, (":".intercalate value).trimAscii.toString)
  | _ => none

/-- The number of bytes that a chunk announces. -/
def chunkSize? (line : List UInt8) : Option Nat :=
  let digits := (text line).toList.takeWhile fun c => c ≠ ';' && c ≠ ' '
  if digits.isEmpty then none else Url.digitsValue? 16 digits

/-- The bytes of a body in chunks, if it is complete. Each chunk takes at least one byte, so the
number of bytes bounds the number of chunks. -/
def unchunk? : Nat → List UInt8 → Option (List UInt8)
  | 0, _ => none
  | fuel + 1, bytes => do
    let (line, rest) ← cut? lineEnd bytes
    let size ← chunkSize? line
    if size = 0 then some []
    else if rest.length < size + lineEnd.length then none
    else return rest.take size ++ (← unchunk? fuel (rest.drop (size + lineEnd.length)))

/-- The body that the headers announce, if it is complete. -/
def body? (headers : List (String × String)) (bytes : List UInt8) : Option (List UInt8) :=
  match headers.lookup "transfer-encoding", headers.lookup "content-length" with
  | some _, _ => unchunk? (bytes.length + 1) bytes
  | none, some length =>
    match Url.digitsValue? 10 length.toList with
    | some n => if bytes.length < n then none else some (bytes.take n)
    | none => none
  | none, none => some bytes

/-- The status of a first line. -/
def status? (line : String) : Option Nat :=
  match line.splitOn " " with
  | _ :: code :: _ => if code.length = 3 then Url.digitsValue? 10 code.toList else none
  | _ => none

/-- The response that a server has sent. -/
def ofBytes? (bytes : List UInt8) : Option HttpResponse := do
  let (head, rest) ← cut? (lineEnd ++ lineEnd) bytes
  match (text head).splitOn "\r\n" with
  | first :: lines =>
    let status ← status? first
    return ⟨status, (body? (lines.filterMap header?) rest).map text⟩
  | [] => none

end HttpResponse

end Telemetry

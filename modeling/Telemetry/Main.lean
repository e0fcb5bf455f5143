import Std.Async.DNS
import Std.Async.TCP
import Std.Async.Timer
import Std.Time
import Telemetry.Command.Run
import Telemetry.Http.Wire
import Telemetry.Log.Clock
import Telemetry.Log.Line
import Telemetry.Store.Text

/-!
# The command line

Carries out a command with the files, the environment, the clock and the network of the machine.
-/

namespace Telemetry.Machine

open Std.Async

/-! ## Files -/

/-- Why the machine refused a file. -/
def fileFault : IO.Error → FileFault
  | .noFileOrDirectory .. => .missing
  | .permissionDenied .. => .denied
  | .alreadyExists .. => .occupied
  | .inappropriateType _ code _ => if code = 20 then .notDirectory else .directory
  | e => .other (toString e)

/-- A result, or why the machine refused a file. -/
def attempt {α : Type} (action : IO α) : IO (Except FileFault α) := do
  try return .ok (← action) catch e => return .error (fileFault e)

def isPresent (path : String) : IO Bool := do
  try
    let _ ← IO.FS.realPath path
    return !path.isEmpty
  catch _ => return false

def read (path : String) : IO (Except FileFault String) := do
  match ← attempt (IO.FS.readBinFile path) with
  | .error fault => return .error fault
  | .ok bytes =>
    match String.fromUTF8? bytes with
    | some s => return .ok s
    | none => return .error .notText

/-- Make a directory and those that it is in. -/
def makeDirectory (path : String) : IO (Except FileFault Unit) := do
  if path.isEmpty then return .ok ()
  match ← attempt (IO.FS.createDir path) with
  | .error .missing | .error .occupied => attempt (IO.FS.createDirAll path)
  | made => return made

/-- The directory that a path is in. -/
def parent (path : String) : String :=
  "/".intercalate (path.splitOn "/").dropLast

/-! ## Documents -/

/-- The store that is open, and where new ids come from. -/
structure State where
  path : String
  store : KeyedStore
  ids : IdSource

/-- The present time in microseconds since the start of 1970. -/
def now : IO Nat := do
  let t ← Std.Time.Timestamp.now
  return (t.toNanosecondsSinceUnixEpoch.val / 1000).toNat

/-- A source of ids for this process. -/
def newIds : IO IdSource := do
  let bytes ← IO.getRandomBytes 9
  let counter := bytes.toList.drop 5
  if h : (bytes.toList.take 5).length = 5 then
    return ⟨bytes.toList.take 5, counter.foldl (fun n b => n * 256 + b.toUInt32) 0, h⟩
  else return ⟨[0, 0, 0, 0, 0], 0, rfl⟩

/-- Open the store of a path, or make one. -/
def openStore (state : IO.Ref State) (path : String) : IO (Except StoreError Unit) := do
  let opened (s : KeyedStore) : IO (Except StoreError Unit) := do
    state.modify fun x => { x with path := path, store := s }
    return .ok ()
  if ← isPresent path then
    match ← read path with
    | .error .notText => return .error .noStore
    | .error fault => return .error (.unopened fault)
    | .ok text =>
      match KeyedStore.ofText? text with
      | some s => opened s
      | none => return .error .noStore
  else
    match ← makeDirectory (parent path) with
    | .error fault => return .error (.io fault.message)
    | .ok _ =>
      match ← attempt (IO.FS.writeFile path (KeyedStore.toText [])) with
      | .error fault => return .error (.unopened fault)
      | .ok _ => opened []

/-- The answer of the open store; what it has changed is written. -/
def storeAnswer (state : IO.Ref State) (r : StoreRequest) : IO r.Answer := do
  let seconds := (← now) / 1000000
  let s ← state.get
  let (x, store) := s.store.perform (s.ids.current seconds) r
  state.set { s with store := store, ids := (s.ids.next seconds).2 }
  match r with
  | .select .. => pure ()
  | .insert .. | .replace .. => IO.FS.writeFile s.path store.toText
  return x

/-! ## Network -/

/-- The numeric addresses of a host. -/
def addresses (host : String) (port : Nat) : Async (Array Std.Net.SocketAddress) := do
  let found ← DNS.getAddrInfo host (toString port)
  return found.map fun
    | .v4 a => .v4 ⟨a, port.toUInt16⟩
    | .v6 a => .v6 ⟨a, port.toUInt16⟩

/-- Everything that a server sends. -/
def receiveAll (client : TCP.Socket.Client) : Async ByteArray := do
  let mut received := ByteArray.empty
  let mut open? := true
  while open? do
    match ← client.recv? 65536 with
    | some bytes => received := received ++ bytes
    | none => open? := false
  return received

/-- The bytes that a server answers to a request. -/
def exchange (r : HttpRequest) (address : Url) : Async ByteArray := do
  let some target := (← addresses address.host address.effectivePort)[0]?
    | throw (IO.userError "no such host")
  let client ← TCP.Socket.Client.mk
  client.connect target
  client.send (r.bytes address)
  receiveAll client

/-- What came of a request. There is no way to a server that asks for encryption. -/
def send (r : HttpRequest) (address : Url) : IO Delivery := do
  if address.secure then return .unreachable
  let answer : Async Delivery := do
    try
      match HttpResponse.ofBytes? (← exchange r address).toList with
      | some response => return .answered response
      | none => return .unreachable
    catch _ => return .unreachable
  let timer : Async Delivery := do
    sleep (Std.Time.Millisecond.Offset.ofNat r.timeout)
    return .late
  (Async.race answer timer).block

/-! ## Commands -/

/-- The values of the variables that the program looks at. -/
def environment : IO Environment := do
  let names := Variable.all.map Variable.name ++ [LogStyle.filterVariable, LogStyle.recordsVariable]
  let values ← names.mapM fun name => do return (name, ← IO.getEnv name)
  return fun name => (values.lookup name).join

/-- The answer of the machine to a step of a command. -/
def answer (style : LogStyle) (state : IO.Ref State) : (q : CommandStep) → IO q.Answer
  | .isPresent path => isPresent path
  | .read path => read path
  | .write path text => attempt (IO.FS.writeFile path text)
  | .openStore path => openStore state path
  | .store r => storeAnswer state r
  | .send r address => send r address
  | .log event => do
    match style.write? (Clock.text (← now)) event with
    | some line => IO.println line
    | none => pure ()
  | .print text => IO.print text

end Telemetry.Machine

open Telemetry in
def main (args : List String) : IO UInt32 := do
  let env ← Machine.environment
  let state ← IO.mkRef (Machine.State.mk "" [] (← Machine.newIds))
  let outcome ← (Command.ofLine env args).runM
    (Machine.answer (LogStyle.ofEnvironment env) state)
  IO.eprint outcome.complaint
  return outcome.code.toUInt32

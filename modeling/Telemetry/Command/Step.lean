import Telemetry.File
import Telemetry.Operation.Step
import Telemetry.Series.Client
import Telemetry.Sync.Remote

/-!
# What a command asks of its surroundings

* `CommandStep`: files, the document store, messages to other systems, the log and the output.
* `Failure`: why a command gave up, as it is told to the user.
* `CommandRun`: a computation that asks such questions and may fail.
* `Clients.carryOut`: an operation with the broker and the series store over the network.
-/

namespace Telemetry

/-- What a command asks of its surroundings. -/
inductive CommandStep where
  | isPresent (path : String)
  | read (path : String)
  | write (path text : String)
  /-- Open the document store of a path; from then on requests go to it. -/
  | openStore (path : String)
  | store (r : StoreRequest)
  | send (r : HttpRequest) (address : Url)
  | log (event : LogEvent)
  | print (text : String)

/-- What a step is answered with. -/
def CommandStep.Answer : CommandStep → Type
  | isPresent _ => Bool
  | read _ => Except FileFault String
  | write .. => Except FileFault Unit
  | openStore _ => Except StoreError Unit
  | store r => r.Answer
  | send .. => Delivery
  | log _ => Unit
  | print _ => Unit

/-- A computation that asks the surroundings of a command. -/
abbrev CommandDialogue := Dialogue CommandStep CommandStep.Answer

/-! ## Failures -/

/-- Why a command gave up, and what that came from. -/
structure Failure where
  message : String
  causes : List String := []
  deriving DecidableEq

namespace Failure

/-- An error that is told as it is. -/
def ofError (e : Error) : Failure := { message := e.message }

/-- A text whose lines stand behind a margin; the first line has a margin of its own. -/
def indented (first others s : String) : String :=
  first ++ ("\n" ++ others).intercalate (s.splitOn "\n")

/-- A number with blanks before it up to a width of five. -/
def numberColumn (n : Nat) : String :=
  let digits := toString n
  String.ofList (List.replicate (5 - digits.length) ' ') ++ digits

/-- The lines of the causes. One stands alone, and several are numbered. -/
def causeLines : List String → List String
  | [] => []
  | [cause] => ["", "Caused by:", indented "    " "    " cause]
  | causes => ["", "Caused by:"] ++
      causes.mapIdx fun i cause => indented (numberColumn i ++ ": ") "       " cause

/-- What is told to the user. -/
def text (f : Failure) : String :=
  "\n".intercalate (("Error: " ++ f.message) :: causeLines f.causes) ++ "\n"

end Failure

/-- A computation of a command that may fail. -/
abbrev CommandRun := ExceptT Failure CommandDialogue

namespace CommandRun

/-- A result that was computed without asking. -/
def ofExcept {α : Type} (r : Except Error α) : CommandRun α :=
  ExceptT.mk (pure (r.mapError Failure.ofError))

/-- Whether there is a file or a directory at a path. -/
def isPresent (path : String) : CommandRun Bool :=
  let reply : CommandDialogue Bool := .question (CommandStep.isPresent path)
  ExceptT.lift reply

/-- The text of a file, or why it cannot be read. -/
def read (path : String) : CommandRun (Except FileFault String) :=
  let reply : CommandDialogue (Except FileFault String) := .question (CommandStep.read path)
  ExceptT.lift reply

/-- Write a file. -/
def write (path text : String) : CommandRun Unit :=
  let reply : CommandDialogue (Except FileFault Unit) := .question (CommandStep.write path text)
  ExceptT.mk ((·.mapError fun fault => ⟨"Failed to write " ++ path, [fault.message]⟩) <$> reply)

/-- Open the document store of a path. -/
def openStore (path : String) : CommandRun (Except StoreError Unit) :=
  let reply : CommandDialogue (Except StoreError Unit) := .question (CommandStep.openStore path)
  ExceptT.lift reply

/-- Log an event. -/
def log (event : LogEvent) : CommandRun Unit :=
  let reply : CommandDialogue Unit := .question (CommandStep.log event)
  ExceptT.lift reply

/-- Print a text. -/
def print (text : String) : CommandRun Unit :=
  let reply : CommandDialogue Unit := .question (CommandStep.print text)
  ExceptT.lift reply

/-- Print a line. -/
def printLine (text : String) : CommandRun Unit := print (text ++ "\n")

end CommandRun

/-! ## Other systems -/

/-- How the other systems are reached, if the settings say so. -/
structure Clients where
  broker : Except Error BrokerClient
  series : Except Error SeriesClient

namespace Clients

/-- The clients that the settings ask for. -/
def ofSettings (s : Settings) : Clients :=
  ⟨BrokerClient.ofSettings s.broker, SeriesClient.ofSettings s.series⟩

/-- A step of an exchange, as a step of a command. -/
def exchangeStep : (q : HttpStep) → CommandDialogue q.Answer
  | .send r address => .question (CommandStep.send r address)
  | .log event => .question (CommandStep.log event)

/-- A step of a sync. A broker that is not known fails every request. -/
def syncStep (c : Clients) (s : SyncStep) : HttpDialogue s.Answer :=
  match c.broker, s with
  | .ok broker, s => broker.step s
  | .error _, .isCancelled => (pure false : HttpDialogue Bool)
  | .error e, .request r => pure (r.failed e)
  | .error _, .log event => Http.log event

/-- A query. A series store that is not known fails every query. -/
def query (c : Clients) (q : SeriesQuery) : HttpDialogue (Except Error TimeSeries) :=
  match c.series with
  | .ok series => series.perform q
  | .error e => pure (.error e)

/-- An exchange, as a part of a command. -/
def exchange {α : Type} (d : HttpDialogue α) : CommandDialogue α :=
  Dialogue.translate (A := HttpStep.Answer) exchangeStep d

/-- A step of an operation, as a part of a command. -/
def operationStep (c : Clients) : (q : OperationStep) → CommandDialogue q.Answer
  | .store r => .question (CommandStep.store r)
  | .series q => exchange (c.query q)
  | .sync s => exchange (c.syncStep s)

/-- An operation, as a part of a command. -/
def carryOut {α : Type} (c : Clients) (x : Operation α) : CommandRun α :=
  let reply : CommandDialogue (Except Error α) :=
    Dialogue.translate (A := OperationStep.Answer) c.operationStep x.run
  ExceptT.mk ((·.mapError Failure.ofError) <$> reply)

end Clients

end Telemetry

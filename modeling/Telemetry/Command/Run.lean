import Telemetry.Command.Help
import Telemetry.Command.Reader
import Telemetry.Command.Step
import Telemetry.Operation.Dashboard
import Telemetry.Operation.Sensors
import Telemetry.Settings.Environment
import Telemetry.Settings.File

/-!
# Carrying out a command

* `Settings.load`: the settings of a file with the values of the environment, if they are valid.
* `Command.perform`: what a command asks, in its order.
* `Invocation.run`: a command with its settings.
* `Command.ofLine`: what the program does with its arguments, and how it ends.
-/

namespace Telemetry

/-! ## Settings -/

/-- The settings file that is looked for. -/
def Settings.standardPath : String := "qiot.toml"

/-- An event about the settings. -/
def Settings.event (message : String) : LogEvent :=
  ⟨.info, .settings, message, [LogValue.category "config"]⟩

/-- The settings of a file; without the file they are standard. -/
def Settings.ofFile (path : String) : CommandRun Settings := do
  if ← CommandRun.isPresent path then
    CommandRun.log (event ("Loading config from: " ++ path))
    match ← CommandRun.read path with
    | .error fault =>
      let text := "Failed to read " ++ path ++ ": " ++ fault.message
      throw (Failure.ofError (.configuration text))
    | .ok text => CommandRun.ofExcept (Settings.ofToml text)
  else
    CommandRun.log (event ("No config file at " ++ path ++ ", using defaults and environment"))
    return .standard

/-- The settings of a file with the values of the environment, if they are valid. -/
def Settings.load (env : Environment) (path : Option String) : CommandRun Settings := do
  let s := (← Settings.ofFile (path.getD standardPath)).overlay env
  CommandRun.ofExcept s.validate
  return s

/-! ## Parts of commands -/

namespace Command

/-- The store is open. -/
def storeOpened (path : String) : LogEvent where
  level := .info
  target := .documentStore
  message := "Document store opened at " ++ path
  values := [LogValue.category "storage"]

/-- What a store's error came from. -/
def storeCauses : StoreError → List String
  | .io text => [(StoreError.io text).message, text]
  | e => [e.message]

/-- Open the document store. -/
def openStore (s : Settings) : CommandRun Unit := do
  match ← CommandRun.openStore s.storage.path with
  | .ok _ => CommandRun.log (storeOpened s.storage.path)
  | .error e => throw ⟨"Failed to open store " ++ s.storage.path, storeCauses e⟩

/-- The document of a file. -/
def readDocument (path : String) : CommandRun Document := do
  match ← CommandRun.read path with
  | .error fault => throw ⟨"Failed to read " ++ path, [fault.message]⟩
  | .ok text =>
    match Json.readObject text with
    | .ok d => return d
    | .error fault => throw ⟨path ++ " is not a JSON object", [fault.message]⟩

/-- Print a value with one item or member per line. -/
def printJson (v : Json) : CommandRun Unit := CommandRun.printLine v.pretty

/-- A text with blanks up to a width of forty. -/
def nameColumn (s : String) : String := s ++ String.ofList (List.replicate (40 - s.length) ' ')

/-- The line that tells what came of a route. -/
def outcomeLine (o : Sync.RouteOutcome) : String :=
  match o.status with
  | .synced action rule =>
    "ok      " ++ nameColumn o.measurement ++ " action " ++ action.title ++ ", rule " ++ rule.title
  | .failed stage e =>
    "FAILED  " ++ nameColumn o.measurement ++ " " ++ stage.name ++ " step: " ++ e.message

/-- Print what came of a sync; a route that failed is a failure of the command. -/
def finish (r : Sync.Report) : CommandRun Unit := do
  CommandRun.print (String.join (r.outcomes.map fun o => outcomeLine o ++ "\n"))
  let _ ← CommandRun.ofExcept r.complete

/-! ## Commands -/

/-- Store a sensor. -/
def storeSensorFile (s : Settings) (c : Clients) (path : String) (id : Option String) :
    CommandRun Unit := do
  openStore s
  let d ← readDocument path
  match id with
  | some id =>
    c.carryOut (Sensors.edit id d)
    CommandRun.printLine id
  | none => CommandRun.printLine (← c.carryOut (Sensors.insert d))

/-- Store an experiment, and then bring the broker up to date if `options` are given. -/
def storeExperiment (s : Settings) (options : Option SyncOptions) (id : Option String)
    (d : Document) : Operation StoredExperiment :=
  match id with
  | some id => Experiments.update s.naming.topicRoot options id d
  | none => Experiments.insert s.naming.topicRoot options d

/-- Store an experiment and bring the broker up to date. -/
def storeExperimentFile (s : Settings) (c : Clients) (path : String) (id : Option String)
    (storeOnly : Bool) : CommandRun Unit := do
  openStore s
  if !storeOnly then
    let _ ← CommandRun.ofExcept c.broker
  let options := if storeOnly then none else some s.syncOptions
  let stored ← c.carryOut (storeExperiment s options id (← readDocument path))
  CommandRun.printLine stored.id
  match stored.sync with
  | some report => finish report
  | none => pure ()

/-- Print the routes of an experiment. -/
def printRoutes (s : Settings) (c : Clients) (id : String) : CommandRun Unit := do
  openStore s
  let e ← c.carryOut (Experiments.complete s.naming.topicRoot id)
  let routes ← c.carryOut (Synchronization.compile s.syncOptions e)
  printJson (.list (routes.map Route.toJson))

/-- Bring the broker up to date with an experiment. -/
def syncExperiment (s : Settings) (c : Clients) (id : String) : CommandRun Unit := do
  openStore s
  let e ← c.carryOut (Experiments.complete s.naming.topicRoot id)
  let _ ← CommandRun.ofExcept c.broker
  finish (← c.carryOut (Synchronization.run s.syncOptions e))

/-- Print the series of a service of an experiment. -/
def printDashboard (s : Settings) (c : Clients) (id service : String) : CommandRun Unit := do
  let _ ← CommandRun.ofExcept c.series
  openStore s
  let series ← c.carryOut (Dashboard.build s id service)
  printJson (.list (series.map DashboardSeries.toJson))

/-- The configuration of the gateway was written. -/
def configurationWritten (path : String) : LogEvent where
  level := .info
  target := .commandLine
  message := "Gateway configuration written to " ++ path
  values := []

/-- Print the configuration of the gateway, or write it to a file. -/
def exportConfiguration (s : Settings) (c : Clients) (id : String) (output : Option String) :
    CommandRun Unit := do
  openStore s
  let text ← c.carryOut (Experiments.gatewayConfiguration id)
  match output with
  | some path =>
    CommandRun.write path text
    CommandRun.log (configurationWritten path)
  | none => CommandRun.print text

/-- Print documents. -/
def printDocuments (s : Settings) (c : Clients) (x : Operation (List Document)) :
    CommandRun Unit := do
  openStore s
  printJson (.list ((← c.carryOut x).map Json.object))

/-- Carry out a command. -/
def perform (s : Settings) (c : Clients) : Command → CommandRun Unit
  | .importSensor path id => storeSensorFile s c path id
  | .importExperiment path id storeOnly => storeExperimentFile s c path id storeOnly
  | .sensors => printDocuments s c Sensors.list
  | .experiments => printDocuments s c Experiments.list
  | .compile id => printRoutes s c id
  | .sync id => syncExperiment s c id
  | .dashboard id service => printDashboard s c id service
  | .exportYaml id output => exportConfiguration s c id output

end Command

/-- Carry out a command with the settings of its file and the environment. -/
def Invocation.run (env : Environment) (i : Invocation) : CommandRun Unit := do
  let s ← Settings.load env i.settings
  i.command.perform s (.ofSettings s)

/-- How the program ends. -/
structure Outcome where
  code : Nat
  /-- What is told to the user apart from the output. -/
  complaint : String
  deriving DecidableEq

/-- How the program ends when a command was carried out. -/
def Outcome.ofResult : Except Failure Unit → Outcome
  | .ok _ => ⟨0, ""⟩
  | .error f => ⟨1, f.text⟩

/-- What the program does with its arguments, and how it ends. -/
def Command.ofLine (env : Environment) (args : List String) : CommandDialogue Outcome :=
  match Invocation.ofArguments args with
  | .ok i => Outcome.ofResult <$> (i.run env).run
  | .error .usage => pure ⟨2, Help.text none⟩
  | .error .version => (fun _ => ⟨0, ""⟩) <$> (CommandRun.print Help.version).run
  | .error (.help c) => (fun _ => ⟨0, ""⟩) <$> (CommandRun.print (Help.text c)).run

end Telemetry

/-!
# The forms of the commands

* `CommandName`: what the program can do; `CommandName.places` and `CommandName.options` are what a
  command takes.
* `Command`: a command with what it was given.
* `Invocation`: a command and the path of the settings file.
-/

namespace Telemetry

/-- The names of the commands. -/
inductive CommandName where
  | importSensor
  | importExperiment
  | sensors
  | experiments
  | compile
  | sync
  | dashboard
  | exportYaml
  deriving DecidableEq

/-- The options that a command can have. -/
inductive OptionName where
  | id
  | noSync
  | output
  | config
  | help
  | version
  deriving DecidableEq

/-- A command with what it was given. -/
inductive Command where
  | importSensor (path : String) (id : Option String)
  | importExperiment (path : String) (id : Option String) (storeOnly : Bool)
  | sensors
  | experiments
  | compile (experiment : String)
  | sync (experiment : String)
  | dashboard (experiment service : String)
  | exportYaml (experiment : String) (output : Option String)
  deriving DecidableEq

/-- A command and the path of the settings file. -/
structure Invocation where
  command : Command
  settings : Option String
  deriving DecidableEq

/-- A value that a command cannot do without. -/
structure Place where
  name : String
  about : String
  /-- The value is the path of a file, so it is not empty. -/
  isPath : Bool := false

namespace OptionName

/-- The long name of an option. -/
def text : OptionName → String
  | id => "id"
  | noSync => "no-sync"
  | output => "output"
  | config => "config"
  | help => "help"
  | version => "version"

/-- The letter that stands for an option. -/
def letter? : OptionName → Option Char
  | id | noSync => none
  | output => some 'o'
  | config => some 'c'
  | help => some 'h'
  | version => some 'V'

/-- The name of the value of an option that takes one. -/
def value? : OptionName → Option String
  | id => some "ID"
  | output => some "OUTPUT"
  | config => some "CONFIG"
  | noSync | help | version => none

/-- The value of an option is the path of a file, so it is not empty. -/
def isPath : OptionName → Bool
  | output | config => true
  | id | noSync | help | version => false

end OptionName

namespace CommandName

/-- All commands in the order in which they are listed. -/
def all : List CommandName :=
  [importSensor, importExperiment, sensors, experiments, compile, sync, dashboard, exportYaml]

/-- The name of a command on the command line. -/
def text : CommandName → String
  | importSensor => "import-sensor"
  | importExperiment => "import-experiment"
  | sensors => "sensors"
  | experiments => "experiments"
  | compile => "compile"
  | sync => "sync"
  | dashboard => "dashboard"
  | exportYaml => "export-yaml"

/-- The command of a name. -/
def ofText? (s : String) : Option CommandName := all.find? (·.text == s)

/-- What a command does. -/
def about : CommandName → String
  | importSensor => "Store a sensor definition from a JSON file"
  | importExperiment => "Store an experiment from a JSON file and sync it to the broker"
  | sensors => "List stored sensors"
  | experiments => "List stored experiments"
  | compile => "Print the actions and rules an experiment compiles to"
  | sync => "Push an experiment's actions and rules to the broker"
  | dashboard => "Fetch the dashboard series of one service"
  | exportYaml => "Export the gateway configuration of an experiment as YAML"

/-- The place of an experiment's id. -/
def experimentPlace : Place := { name := "EXPERIMENT", about := "Experiment id" }

/-- The values that a command cannot do without. -/
def places : CommandName → List Place
  | importSensor => [{ name := "PATH", about := "Path to the sensor document", isPath := true }]
  | importExperiment =>
    [{ name := "PATH", about := "Path to the experiment document", isPath := true }]
  | sensors | experiments => []
  | compile | sync | exportYaml => [experimentPlace]
  | dashboard => [experimentPlace, { name := "SERVICE", about := "Service UUID" }]

/-- The options of a command. -/
def options : CommandName → List OptionName
  | importSensor => [.id, .config, .help]
  | importExperiment => [.id, .noSync, .config, .help]
  | exportYaml => [.output, .config, .help]
  | sensors | experiments | compile | sync | dashboard => [.config, .help]

end CommandName

/-- The options that stand before a command. -/
def OptionName.general : List OptionName := [.config, .help, .version]

/-- What an option of a command does. -/
def OptionName.about (command : Option CommandName) : OptionName → String
  | .id =>
    if command = some .importSensor then "Replace this existing sensor instead of inserting"
    else "Replace this existing experiment instead of inserting"
  | .noSync => "Only store the document"
  | .output => "Write to this file instead of stdout"
  | .config => "Configuration file (defaults to ./qiot.toml when present)"
  | .help => "Print help"
  | .version => "Print version"

end Telemetry

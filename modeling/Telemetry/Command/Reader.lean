import Telemetry.Command.Form

/-!
# Reading the command line

* `Invocation.ofArguments`: what the arguments ask for. Options may stand before and behind the
  values of a command, and the option for the settings file also before the command.
* `Refusal`: the arguments ask for help or for the version, or they are not understood.
-/

namespace Telemetry

/-- Why there is no command to carry out. -/
inductive Refusal where
  | usage
  | help (command : Option CommandName)
  | version
  deriving DecidableEq

/-- What a command is given: values in their places, and options with their values. -/
structure Given where
  places : List String
  options : List (OptionName × String)

/-- What one argument is. -/
inductive Argument where
  | place (value : String)
  /-- An option whose value is the next argument. -/
  | opening (o : OptionName)
  | complete (o : OptionName) (value : String)
  /-- Everything behind it stands in places. -/
  | dashes
  | unknown

namespace Argument

/-- An option with the value that is attached to it, if any. -/
def ofOption (o : Option OptionName) (attached : Option String) : Argument :=
  match o with
  | none => unknown
  | some o =>
    match o.value?, attached with
    | some _, some value => complete o value
    | some _, none => opening o
    | none, none => complete o ""
    | none, some _ => unknown

/-- What an argument is when these options are allowed. -/
def ofText (allowed : List OptionName) (s : String) : Argument :=
  match s.toList with
  | ['-'] => place s
  | ['-', '-'] => dashes
  | '-' :: '-' :: cs =>
    let name := String.ofList (cs.takeWhile (· ≠ '='))
    ofOption (allowed.find? (·.text == name)) (match cs.dropWhile (· ≠ '=') with
      | [] => none
      | _ :: value => some (String.ofList value))
  | '-' :: c :: cs =>
    ofOption (allowed.find? (·.letter? == some c)) (match cs with
      | [] => none
      | '=' :: value => some (String.ofList value)
      | value => some (String.ofList value))
  | _ => place s

end Argument

namespace Given

/-- Nothing is given. -/
def nothing : Given := ⟨[], []⟩

/-- The value of an option. -/
def value? (g : Given) (o : OptionName) : Option String := g.options.lookup o

/-- An option is given once, and the path of a file is not empty. -/
def addOption (command : Option CommandName) (g : Given) (o : OptionName) (value : String) :
    Except Refusal Given :=
  if o = .help then .error (.help command)
  else if o = .version then .error .version
  else if (g.value? o).isSome || (o.isPath && value.isEmpty) then .error .usage
  else .ok { g with options := g.options ++ [(o, value)] }

/-- A value comes into the next place that is free. -/
def addPlace (places : List Place) (g : Given) (value : String) : Except Refusal Given :=
  match places[g.places.length]? with
  | none => .error .usage
  | some p =>
    if p.isPath && value.isEmpty then .error .usage
    else .ok { g with places := g.places ++ [value] }

/-- Values come into the next places. -/
def addPlaces (places : List Place) (g : Given) (values : List String) : Except Refusal Given :=
  values.foldlM (addPlace places) g

/-- An argument that looks like an option is no value. -/
def isValue (s : String) : Bool := s == "-" || !"-".toList.isPrefixOf s.toList

/-- What the arguments behind a command give it. -/
def read (c : CommandName) (g : Given) : List String → Except Refusal Given
  | [] => .ok g
  | a :: rest =>
    match Argument.ofText c.options a with
    | .unknown => .error .usage
    | .dashes => g.addPlaces c.places rest
    | .place value => do (← g.addPlace c.places value).read c rest
    | .complete o value => do (← g.addOption (some c) o value).read c rest
    | .opening o =>
      match rest with
      | [] => .error .usage
      | value :: rest => do
        if isValue value then (← g.addOption (some c) o value).read c rest else throw .usage

/-- What is given to a command, as that command. -/
def command? (g : Given) : CommandName → Option Command
  | .importSensor => do return .importSensor (← g.places[0]?) (g.value? .id)
  | .importExperiment => do
    return .importExperiment (← g.places[0]?) (g.value? .id) (g.value? .noSync).isSome
  | .sensors => some .sensors
  | .experiments => some .experiments
  | .compile => do return .compile (← g.places[0]?)
  | .sync => do return .sync (← g.places[0]?)
  | .dashboard => do return .dashboard (← g.places[0]?) (← g.places[1]?)
  | .exportYaml => do return .exportYaml (← g.places[0]?) (g.value? .output)

end Given

namespace Invocation

/-- The command of a name with its arguments; `general` stands before the name. -/
def ofCommand (general : Given) (name : String) (rest : List String) :
    Except Refusal Invocation :=
  match CommandName.ofText? name with
  | some c => do
    let g ← Given.nothing.read c rest
    match g.command? c with
    | some command => return ⟨command, (g.value? .config).or (general.value? .config)⟩
    | none => throw .usage
  | none =>
    match name, rest with
    | "help", [] => .error (.help none)
    | "help", [topic] =>
      match CommandName.ofText? topic with
      | some c => .error (.help (some c))
      | none => .error .usage
    | _, _ => .error .usage

/-- What arguments ask for, when these options were given before them. -/
def ofGeneral (g : Given) : List String → Except Refusal Invocation
  | [] => .error .usage
  | a :: rest =>
    match Argument.ofText OptionName.general a with
    | .unknown => .error .usage
    | .dashes => .error .usage
    | .place name => ofCommand g name rest
    | .complete o value => do ofGeneral (← g.addOption none o value) rest
    | .opening o =>
      match rest with
      | [] => .error .usage
      | value :: rest => do
        if Given.isValue value then ofGeneral (← g.addOption none o value) rest else throw .usage

/-- What the arguments ask for. -/
def ofArguments (args : List String) : Except Refusal Invocation := ofGeneral .nothing args

end Invocation

end Telemetry

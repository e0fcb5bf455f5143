import Telemetry.Command.Form

/-!
# Help for the command line

* `Help.text`: what the program or one of its commands takes.
* `Help.version`: the name and the version of the program.
-/

namespace Telemetry.Help

/-- The name of the program. -/
def program : String := "qiot"

/-- The name and the version of the program. -/
def version : String := program ++ " 0.3.0\n"

/-- What the program is for. -/
def about : String := "QIoT - route device telemetry through EMQX into InfluxDB"

/-- A text with blanks up to a width. -/
def padded (width : Nat) (s : String) : String :=
  s ++ String.ofList (List.replicate (width - s.length) ' ')

/-- A titled table of two columns; none if there are no rows. -/
def table (title : String) (rows : List (String × String)) : List String :=
  let width := (rows.map fun r => r.1.length).foldl max 0
  if rows.isEmpty then []
  else ["", title] ++ rows.map fun r => "  " ++ padded width r.1 ++ "  " ++ r.2

/-- How an option is written. -/
def optionText (o : OptionName) : String :=
  let letter := match o.letter? with
    | some c => "-" ++ c.toString ++ ", "
    | none => "    "
  letter ++ "--" ++ o.text ++ (match o.value? with
    | some v => " <" ++ v ++ ">"
    | none => "")

/-- The rows of a table of options. -/
def optionRows (command : Option CommandName) (os : List OptionName) : List (String × String) :=
  os.map fun o => (optionText o, o.about command)

/-- A place in the line that shows how a command is used. -/
def placeText (p : Place) : String := "<" ++ p.name ++ ">"

/-- How a command is used. -/
def usage (c : CommandName) : String :=
  " ".intercalate (["Usage:", program, c.text, "[OPTIONS]"] ++ c.places.map placeText)

/-- The command that prints help. -/
def helpRow : String × String :=
  ("help", "Print this message or the help of the given subcommand(s)")

/-- What the program takes. -/
def general : List String :=
  [about, "", "Usage: " ++ program ++ " [OPTIONS] <COMMAND>"] ++
    table "Commands:" (CommandName.all.map (fun c => (c.text, c.about)) ++ [helpRow]) ++
    table "Options:" (optionRows none OptionName.general)

/-- What a command takes. -/
def ofCommand (c : CommandName) : List String :=
  [c.about, "", usage c] ++
    table "Arguments:" (c.places.map fun p => (placeText p, p.about)) ++
    table "Options:" (optionRows (some c) c.options)

/-- What the program or one of its commands takes. -/
def text (command : Option CommandName) : String :=
  "\n".intercalate (match command with
    | some c => ofCommand c
    | none => general) ++ "\n"

end Telemetry.Help

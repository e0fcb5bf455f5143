import Telemetry.Json.Writer
import Telemetry.Log.Filter
import Telemetry.Settings.Environment

/-!
# Lines of a log

* `LogEvent.line`: an event as a line for people: its time, level, message and values.
* `LogEvent.record`: an event as a JSON object.
* `LogStyle.ofEnvironment`: which events are logged, and in which of the two ways.
-/

namespace Telemetry

/-- The name of a level. -/
def LogLevel.name : LogLevel → String
  | trace => "TRACE"
  | debug => "DEBUG"
  | info => "INFO"
  | warn => "WARN"
  | error => "ERROR"

/-- Texts in quotes between brackets. -/
def quotedList (xs : List String) : String := "[" ++ ", ".intercalate (xs.map Text.quoted) ++ "]"

namespace LogValue

/-- A value in a line. -/
def text : LogValue → String
  | quoted s => Text.quoted s
  | plain s => s
  | number n => toString n
  | names xs => quotedList xs

/-- A value in a record. -/
def toJson : LogValue → Json
  | quoted s => .text s
  | plain s => .text s
  | number n => .nat n
  | names xs => .text (quotedList xs)

end LogValue

namespace LogEvent

/-- The name of the level, behind blanks up to a width of five. -/
def levelColumn (e : LogEvent) : String :=
  String.ofList (List.replicate (5 - e.level.name.length) ' ') ++ e.level.name

/-- An event as a line. -/
def line (time : String) (e : LogEvent) : String :=
  " ".intercalate ([time, e.levelColumn, e.message] ++ e.values.map fun v => v.1 ++ "=" ++ v.2.text)

/-- An event as a JSON object. -/
def record (time : String) (e : LogEvent) : Json :=
  .object [("timestamp", .text time), ("level", .text e.level.name),
    ("fields", .object (("message", .text e.message) :: e.values.map fun v => (v.1, v.2.toJson))),
    ("target", .text e.target.path)]

end LogEvent

/-- How a log is written. -/
structure LogStyle where
  filter : LogFilter
  /-- Each event is written as a JSON object. -/
  records : Bool
  deriving DecidableEq

namespace LogStyle

/-- The variable with the filter of the log. -/
def filterVariable : String := "RUST_LOG"

/-- The variable that asks for JSON objects. -/
def recordsVariable : String := "QIOT_LOG_JSON"

/-- The log that the environment asks for; a filter that cannot be read is none. -/
def ofEnvironment (env : Environment) : LogStyle where
  filter := ((env filterVariable).bind LogFilter.parse?).getD .standard
  records := env recordsVariable == some "true"

/-- What is written of an event, if it is logged. -/
def write? (style : LogStyle) (time : String) (e : LogEvent) : Option String :=
  if style.filter.admits e then
    some (if style.records then (e.record time).compact else e.line time)
  else none

end LogStyle

end Telemetry

import Telemetry.Log.Event

/-!
# Which events are logged

* `LogFilter.parse?`: a filter is a list of rules with commas between them. A rule is a level, a
  part of the program, or both as `part=level`.
* `LogFilter.admits`: the rule with the longest name that starts the name of the event's part
  decides.
-/

namespace Telemetry

/-- How much a level tells: the graver it is, the less. -/
def LogLevel.detail : LogLevel → Nat
  | error => 1
  | warn => 2
  | info => 3
  | debug => 4
  | trace => 5

/-- Parts whose names start with `part` tell up to this detail. -/
structure LogRule where
  part : String
  detail : Nat
  deriving DecidableEq

/-- The rules of a log. -/
structure LogFilter where
  rules : List LogRule
  deriving DecidableEq

namespace LogRule

/-- The detail of a level by its name or its number; the last one tells nothing. -/
def readDetail? (s : String) : Option Nat :=
  match s.toLower with
  | "trace" | "5" => some 5
  | "debug" | "4" => some 4
  | "info" | "3" => some 3
  | "warn" | "2" => some 2
  | "error" | "1" => some 1
  | "off" | "0" => some 0
  | _ => none

/-- What may stand in the name of a part. -/
def isPartChar (c : Char) : Bool := c.isAlphanum || c == '_' || c == ':' || c == '-'

/-- A rule for a part; without a level it tells everything. -/
def ofPart? (part : String) (level : Option String) : Option LogRule :=
  if part.toList.all isPartChar then
    match level with
    | none | some "" => some ⟨part, LogLevel.trace.detail⟩
    | some level => (readDetail? level).map (⟨part, ·⟩)
  else none

/-- The rule that a text writes. -/
def parse? (s : String) : Option LogRule :=
  match s.splitOn "=" with
  | [part] =>
    match readDetail? part with
    | some detail => some ⟨"", detail⟩
    | none => ofPart? part none
  | part :: rest => if part.isEmpty then none else ofPart? part (some ("=".intercalate rest))
  | [] => none

/-- A rule is about a part. -/
def covers (r : LogRule) (path : String) : Bool := r.part.toList.isPrefixOf path.toList

/-- The later of two rules, unless its name is shorter. -/
def closer (best : Option LogRule) (r : LogRule) : Option LogRule :=
  match best with
  | none => some r
  | some b => if b.part.length ≤ r.part.length then some r else some b

end LogRule

namespace LogFilter

/-- The program tells what it does, and no more. -/
def standard : LogFilter := ⟨[⟨"qiot", LogLevel.info.detail⟩]⟩

/-- Errors are told. -/
def errors : LogFilter := ⟨[⟨"", LogLevel.error.detail⟩]⟩

/-- The filter that a text writes; one without any rule tells errors. -/
def parse? (s : String) : Option LogFilter := do
  let rules ← ((s.splitOn ",").filter (!·.isEmpty)).mapM LogRule.parse?
  return if rules.isEmpty then errors else ⟨rules⟩

/-- The rule that decides about a part. -/
def ruleFor? (f : LogFilter) (path : String) : Option LogRule :=
  (f.rules.filter (·.covers path)).foldl LogRule.closer none

/-- An event is logged. -/
def admits (f : LogFilter) (e : LogEvent) : Bool :=
  match f.ruleFor? e.target.path with
  | some r => e.level.detail ≤ r.detail
  | none => false

end LogFilter

end Telemetry

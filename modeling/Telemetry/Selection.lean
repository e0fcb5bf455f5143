/-!
# What a rule selects and what an action writes

* `Projection`, `Selection`: what a rule takes from a message; `Selection.sql` is its text.
* `Assignment`: one item of a line-protocol template; `Assignment.text` is its text.
* `LineTemplate`: the template of a whole line: the measurement and its tags, a space, the fields.
-/

namespace Telemetry

/-- An expression and the name under which its value is known. -/
structure Projection where
  expr : String
  name : String
  deriving DecidableEq

/-- What a rule takes from a message. -/
inductive Selection where
  /-- Everything. -/
  | wildcard
  | projections (items : List Projection)
  /-- The projections of each element of an array, which is known under a name. -/
  | forEach (source element : String) (items : List Projection)
  deriving DecidableEq

/-- A key and the placeholder of its value. An integer value is marked as one. -/
structure Assignment where
  key : String
  value : String
  integer : Bool
  deriving DecidableEq

/-- The template of a line: a measurement, its tags and its fields. -/
structure LineTemplate where
  measurement : String
  tags : List Assignment
  fields : List Assignment
  deriving DecidableEq

/-- Texts with a separator between any two. -/
def joinTexts (separator : String) (texts : List String) : String := separator.intercalate texts

namespace Projection

def text (p : Projection) : String := p.expr ++ " as " ++ p.name

end Projection

namespace Selection

/-- The projections of a selection. -/
def items : Selection → List Projection
  | wildcard => []
  | projections items => items
  | forEach _ _ items => items

/-- The text of some projections. -/
def itemsText (items : List Projection) : String := joinTexts ", " (items.map Projection.text)

/-- The text of a selection from a topic. -/
def sql (s : Selection) (topic : String) : String :=
  let source := " FROM \"" ++ topic ++ "\""
  match s with
  | wildcard => "SELECT *" ++ source
  | projections items => "SELECT " ++ itemsText items ++ source
  | forEach array element items =>
    "FOREACH " ++ array ++ " as " ++ element ++ " DO " ++ itemsText items ++ source

end Selection

/-- The placeholder of an expression. -/
def placeholder (expr : String) : String := "$\x7b" ++ expr ++ "\x7d"

namespace Assignment

/-- The text of an assignment; an integer value ends in `i`. -/
def text (a : Assignment) : String :=
  a.key ++ "=" ++ a.value ++ (if a.integer then "i" else "")

end Assignment

namespace LineTemplate

/-- The measurement and the tags of a line. -/
def series (t : LineTemplate) : String :=
  joinTexts "," (t.measurement :: t.tags.map Assignment.text)

/-- The text of a line template. -/
def text (t : LineTemplate) : String :=
  t.series ++ " " ++ joinTexts "," (t.fields.map Assignment.text)

end LineTemplate

end Telemetry

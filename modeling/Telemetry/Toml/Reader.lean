import Telemetry.Toml.Number
import Telemetry.Toml.Tables

/-!
# TOML documents

* `Toml.Statement`: a header or a pair.
* `Toml.readStatements`: the statements of a text.
* `Toml.read`: the table that a text writes.
-/

namespace Telemetry.Toml

/-- What a line of a document says. -/
inductive Statement where
  | table (path : List String) (key : String)
  | item (path : List String) (key : String)
  | pair (path : List String) (key : String) (value : Json)

/-! ## Values -/

/-- A word that starts a value. -/
def readWord : List Char → Except Fault (Json × List Char)
  | 't' :: 'r' :: 'u' :: 'e' :: cs => .ok (.bool true, cs)
  | 'f' :: 'a' :: 'l' :: 's' :: 'e' :: cs => .ok (.bool false, cs)
  | 'i' :: 'n' :: 'f' :: cs => .ok (.float (.infinity false), cs)
  | 'n' :: 'a' :: 'n' :: cs => .ok (.float .notANumber, cs)
  | _ => .error .valueExpected

/-- A value that holds no other value. -/
def readSimple (cs : List Char) : Except Fault (Json × List Char) :=
  match cs with
  | '"' :: cs => (readText '"' cs).map fun (s, rest) => (.text s, rest)
  | '\'' :: cs => (readText '\'' cs).map fun (s, rest) => (.text s, rest)
  | c :: _ =>
    if c = '+' ∨ c = '-' ∨ c.isDigit then (readMoment? cs).getD (readNumber cs) else readWord cs
  | [] => .error .valueExpected

mutual

/-- A value. `depth` lists and inline tables may still be entered. -/
def readValue : Nat → Nat → List Char → Except Fault (Json × List Char)
  | 0, _, _ => .error .valueExpected
  | fuel + 1, depth, cs =>
    match cs with
    | '[' :: cs =>
      match depth with
      | 0 => .error .nestingTooDeep
      | depth + 1 => readItems fuel depth [] cs
    | '\x7b' :: cs =>
      match depth with
      | 0 => .error .nestingTooDeep
      | depth + 1 =>
        match skipBlanks cs with
        | '\x7d' :: cs => .ok (.object [], cs)
        | cs => readPairs fuel depth [] cs
    | cs => readSimple cs

/-- The items of a list up to its closing bracket, before which a comma may stand; `done` holds
those read, in reverse. -/
def readItems : Nat → Nat → List Json → List Char → Except Fault (Json × List Char)
  | 0, _, _, _ => .error .valueExpected
  | fuel + 1, depth, done, cs => do
    match ← skipLines cs with
    | ']' :: cs => return (.list done.reverse, cs)
    | cs =>
      let (v, cs) ← readValue fuel depth cs
      match ← skipLines cs with
      | ',' :: cs => readItems fuel depth (v :: done) cs
      | cs => return (.list (v :: done).reverse, ← expect ']' cs)

/-- The pairs of an inline table up to its closing brace. -/
def readPairs : Nat → Nat → Members → List Char → Except Fault (Json × List Char)
  | 0, _, _, _ => .error .valueExpected
  | fuel + 1, depth, done, cs => do
    let ((path, key), cs) ← readKeyPath cs
    let (v, cs) ← readValue fuel depth (skipBlanks (← expect '=' cs))
    let done ← done.addPair path key v
    match skipBlanks cs with
    | ',' :: cs => readPairs fuel depth done cs
    | cs => return (.object (Node.membersJson done), ← expect '\x7d' cs)

end

/-! ## Statements -/

/-- A statement. -/
def readStatement (cs : List Char) : Except Fault (Statement × List Char) := do
  match cs with
  | '[' :: '[' :: cs =>
    let ((path, key), cs) ← readKeyPath cs
    return (.item path key, ← expect ']' (← expect ']' cs))
  | '[' :: cs =>
    let ((path, key), cs) ← readKeyPath cs
    return (.table path key, ← expect ']' cs)
  | cs =>
    let ((path, key), cs) ← readKeyPath cs
    let cs := skipBlanks (← expect '=' cs)
    let (v, cs) ← readValue (2 * cs.length + 2) nestingLimit cs
    return (.pair path key v, cs)

/-- The statements of a text, with blank lines and comments between them. Every round takes a
character. -/
def readStatementsFrom : Nat → List Char → Except Fault (List Statement)
  | 0, _ => .ok []
  | fuel + 1, cs => do
    match ← skipLines cs with
    | [] => return []
    | cs =>
      let (s, cs) ← readStatement cs
      return s :: (← readStatementsFrom fuel (← lineEnd cs))

/-- The statements of a text, which may start with a byte order mark. -/
def readStatements (s : String) : Except Fault (List Statement) :=
  let cs := match s.toList with
    | '\uFEFF' :: cs => cs
    | cs => cs
  readStatementsFrom (cs.length + 1) cs

/-! ## Documents -/

/-- A document that is being put together: its tables, and the header that pairs stand under. -/
structure Draft where
  header : List String
  members : Members

/-- Add a statement to a draft. -/
def Draft.add (d : Draft) : Statement → Except Fault Draft
  | .table path key => (d.members.openTable path key).map (⟨path ++ [key], ·⟩)
  | .item path key => (d.members.openItem path key).map (⟨path ++ [key], ·⟩)
  | .pair path key v => (d.members.addBelow d.header path key v).map (⟨d.header, ·⟩)

/-- The table that a text writes. -/
def read (s : String) : Except Fault (Entries Json) := do
  let draft ← (← readStatements s).foldlM Draft.add ⟨[], []⟩
  return Node.membersJson draft.members

end Telemetry.Toml

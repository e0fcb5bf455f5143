/-!
# Faults of TOML texts

* `Toml.Fault`: what is wrong with a text, and `Toml.Fault.message` its wording.
-/

namespace Telemetry.Toml

/-- What is wrong with a TOML text. -/
inductive Fault where
  | keyExpected
  | valueExpected
  | signExpected (sign : Char)
  | lineEndExpected
  | textUnfinished
  | characterInvalid
  | escapeInvalid
  | numberInvalid
  | momentInvalid
  | nestingTooDeep
  | keyTaken (key : String)
  | notATable (key : String)
  deriving DecidableEq

/-- The wording of a fault. -/
def Fault.message : Fault → String
  | keyExpected => "expected a key"
  | valueExpected => "expected a value"
  | signExpected sign => "expected " ++ sign.toString
  | lineEndExpected => "expected the end of the line"
  | textUnfinished => "unfinished string"
  | characterInvalid => "invalid character"
  | escapeInvalid => "invalid escape"
  | numberInvalid => "invalid number"
  | momentInvalid => "invalid date or time"
  | nestingTooDeep => "recursion limit exceeded"
  | keyTaken key => "duplicate key " ++ key
  | notATable key => key ++ " is not a table"

end Telemetry.Toml

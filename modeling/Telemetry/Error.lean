/-!
# Errors

* `Error`: everything that an operation of this library can fail with.
* `Error.kind`: its short name; `Error.message`: its wording.
* `Error.isRemote`: it came from talking to another system.
-/

namespace Telemetry

/-- Why an operation failed. -/
inductive Error where
  /-- A text is not an id. -/
  | malformedId (id reason : String)
  /-- A document that is referred to is not there. -/
  | notFound (what : String)
  /-- Another system could not be talked to. -/
  | transport (text : String)
  /-- Another system answered with a status that is no success. -/
  | remote (status : Nat) (body : String)
  /-- Another system did not answer in time. -/
  | timeout (what : String)
  /-- Some routes were written to the broker and others were not. -/
  | partialSync (failed succeeded : List String)
  /-- A replacement changed nothing. -/
  | notModified (what : String)
  /-- A document does not have the expected shape. -/
  | invalidDocument (text : String)
  | storage (text : String)
  | serialization (text : String)
  | configuration (text : String)
  /-- The caller gave up before this step. -/
  | cancelled (what : String)
  deriving DecidableEq

namespace Error

/-- The short name of an error. -/
def kind : Error → String
  | malformedId .. => "malformed_id"
  | notFound _ => "not_found"
  | transport _ => "transport"
  | remote .. => "remote"
  | timeout _ => "timeout"
  | partialSync .. => "partial_sync"
  | notModified _ => "not_modified"
  | invalidDocument _ => "invalid_document"
  | storage _ => "storage"
  | serialization _ => "serialization"
  | configuration _ => "config"
  | cancelled _ => "cancelled"

/-- The wording of a malformed id. -/
def malformedMessage (id reason : String) : String := s!"Malformed id '{id}': {reason}"

/-- The wording of an error. -/
def message : Error → String
  | malformedId id reason => malformedMessage id reason
  | notFound what => "Not found: " ++ what
  | transport text => "Transport error: " ++ text
  | remote status body => s!"Remote error (status {status}): {body}"
  | timeout what => "Timeout: " ++ what
  | partialSync failed succeeded =>
    let names := ", ".intercalate failed
    s!"Partial sync: {failed.length} failed, {succeeded.length} succeeded (failed: {names})"
  | notModified what => "Nothing modified: " ++ what
  | invalidDocument text => "Invalid document: " ++ text
  | storage text => "Storage error: " ++ text
  | serialization text => "Serialization error: " ++ text
  | configuration text => "Configuration error: " ++ text
  | cancelled what => "Cancelled: " ++ what

/-- The error came from talking to another system. -/
def isRemote : Error → Bool
  | transport _ | remote .. | timeout _ => true
  | _ => false

end Error

end Telemetry

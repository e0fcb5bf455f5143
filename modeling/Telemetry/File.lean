/-!
# Files

* `FileFault`: why a file cannot be read or written.
-/

namespace Telemetry

/-- Why a file cannot be read or written. -/
inductive FileFault where
  | missing
  | denied
  /-- A file is where a directory should be made. -/
  | occupied
  | notDirectory
  | directory
  /-- The bytes of the file are no text. -/
  | notText
  | other (text : String)
  deriving DecidableEq

/-- The wording of a fault. -/
def FileFault.message : FileFault → String
  | missing => "No such file or directory (os error 2)"
  | denied => "Permission denied (os error 13)"
  | occupied => "File exists (os error 17)"
  | notDirectory => "Not a directory (os error 20)"
  | directory => "Is a directory (os error 21)"
  | notText => "stream did not contain valid UTF-8"
  | other text => text

end Telemetry

import AccessStream.Files.Path
import AccessStream.Stream.Options
import AccessStream.Text.Blank

/-!
# Settings

What can be set for a decision stream apart from the command line. A relative path of a policy is
meant from the directory of the file or project that sets it.
-/

namespace AccessStream

/-- The settings. -/
structure Settings where
  /-- The path of the policy file; without one the standard policy is in force. -/
  policyPath : Option String := none
  /-- When lines are flushed. -/
  flush : FlushMode := .everyRecord
  /-- The number of bytes that a record may have. -/
  maxRecordBytes : Nat := Nat.pow 2 20
  /-- The directives of the log filter. -/
  logLevel : String := "info"
  deriving DecidableEq, Repr

namespace Settings

/-- What is wrong with settings that cannot work. -/
inductive Flaw where
  /-- No record may have any bytes. -/
  | zeroLimit
  /-- The directives of the log filter are blank. -/
  | blankLevel
  deriving DecidableEq, Repr

/-- The description of a flaw. -/
def Flaw.message : Flaw → String
  | zeroLimit => "Invalid configuration: pipeline.max_record_bytes must be greater than zero"
  | blankLevel => "Invalid configuration: logging.level must not be empty"

/-- The first flaw of settings, if they have one. -/
def flaw? (settings : Settings) : Option Flaw :=
  if settings.maxRecordBytes = 0 then some .zeroLimit
  else if Text.isBlank settings.logLevel then some .blankLevel
  else none

/-- Settings whose relative path of a policy is meant from a directory. -/
def resolve (base : String) (settings : Settings) : Settings :=
  { settings with policyPath := settings.policyPath.map (Path.join base) }

end Settings

end AccessStream

import AccessStream.Fields
import AccessStream.Settings.Basic

/-!
# Reading settings

Settings stand in three sections. A section is a record, or a list of its fields in their order; a
field that is missing has its default, and fields of other names count for nothing. What counts as a
text, a path, a word or a number depends on where the settings come from.
-/

namespace AccessStream.Settings

/-- A way to read the values that settings are made of. -/
structure Reading (α : Type) where
  /-- The fields of a record that has fields of the given names. -/
  fields? : List String → α → Option (Fields α)
  /-- The text that a value says. -/
  text? : α → Option String
  /-- The path that a value says, or that there is none. -/
  path? : α → Option (Option String)
  /-- The word that a value says. -/
  word? : α → Option String
  /-- The number that a value says. -/
  natural? : α → Option Nat

namespace Reading

variable {α : Type}

/-- Reads the section of the policy. -/
def policyPath? (reading : Reading α) (value : α) : Option (Option String) := do
  let fields ← reading.fields? ["path"] value
  fields.readOr "path" none reading.path?

/-- Reads the section of the stream. -/
def stream? (reading : Reading α) (value : α) : Option StreamOptions := do
  let default : StreamOptions := {}
  let fields ← reading.fields? ["flush", "max_record_bytes"] value
  let flush ← fields.readOr "flush" default.flush fun value =>
    (reading.word? value).bind FlushMode.ofName?
  let maxRecordBytes ← fields.readOr "max_record_bytes" default.maxRecordBytes reading.natural?
  return { flush, maxRecordBytes }

/-- Reads the section of the log. -/
def logLevel? (reading : Reading α) (value : α) : Option String := do
  let default : Settings := {}
  let fields ← reading.fields? ["level"] value
  fields.readOr "level" default.logLevel reading.text?

/-- Reads settings. -/
def settings? (reading : Reading α) (value : α) : Option Settings := do
  let default : Settings := {}
  let sections ← reading.fields? ["policy", "pipeline", "logging"] value
  let policyPath ← sections.readOr "policy" none reading.policyPath?
  let stream ← sections.readOr "pipeline" {} reading.stream?
  let logLevel ← sections.readOr "logging" default.logLevel reading.logLevel?
  return { policyPath, flush := stream.flush, maxRecordBytes := stream.maxRecordBytes, logLevel }

end Reading

end AccessStream.Settings

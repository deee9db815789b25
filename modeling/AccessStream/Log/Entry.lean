import AccessStream.Log.Filter
import AccessStream.Stream.Pipeline

/-!
# Log entries

What the program says about its course, apart from what it writes to the decision stream: an entry
has a level, a target, which names the part of the program that speaks, a message, and fields.
-/

namespace AccessStream.Log

/-- An entry of the log. -/
structure Entry where
  /-- How important the entry is. -/
  level : Level
  /-- The part of the program that speaks. -/
  target : String
  /-- What happened. -/
  message : String
  /-- The circumstances, as texts. -/
  fields : List (String × String) := []
  deriving DecidableEq, Repr

namespace Entry

/-- The line of an entry, without the time. -/
def line (entry : Entry) : String :=
  entry.fields.foldl (fun line field => line ++ " " ++ field.1 ++ "=" ++ field.2)
    (entry.level.name ++ " " ++ entry.target ++ ": " ++ entry.message)

/-- The fields of the counts of a stream. -/
def statsFields (stats : StreamStats) : List (String × String) :=
  [("records", toString stats.records), ("blank", toString stats.blank),
    ("malformed", toString stats.malformed), ("authorized", toString stats.authorized),
    ("unauthorized", toString stats.unauthorized)]

/-- The entry of an event of a stream, with what the JSON reader says of a record. -/
def ofEvent (details : Bytes → String) : StreamEvent → Entry
  | .decided record decision =>
    { level := .trace, target := "attrgate_abac::pipeline", message := "Decided record"
      fields := [("record", toString record), ("decision", decision.name)] }
  | .rejected record error =>
    { level := .warn, target := "attrgate_abac::pipeline", message := "Rejected malformed record"
      fields := [("record", toString record), ("kind", "\"" ++ error.kind ++ "\""),
        ("error", error.message details)] }
  | .ended stats =>
    { level := .debug, target := "attrgate_abac::pipeline", message := "Input stream ended"
      fields := statsFields stats }

/-- The entry that sums up a stream that ended well. -/
def ofStats (stats : StreamStats) : Entry :=
  { level := .info, target := "attrgate::commands::eval", message := "Decision stream complete"
    fields := statsFields stats }

/-- The entry of a policy that was loaded from a file. -/
def ofPolicy (path : String) (policy : Policy) : Entry :=
  { level := .info, target := "attrgate::commands::policy", message := "Loaded policy"
    fields := [("path", path), ("rules", toString policy.rules.length)] }

/-- The entry of a command that goes without a policy file. -/
def standardPolicy : Entry :=
  { level := .debug, target := "attrgate::commands::policy"
    message := "No policy file configured, using the standard policy" }

end Entry

/-- The names of the fields of an entry, of which the message is one. -/
def Entry.fieldNames (entry : Entry) : List String := "message" :: entry.fields.map (·.1)

/-- The entries that a filter lets through. -/
def Filter.select (filter : Filter) (entries : List Entry) : List Entry :=
  entries.filter fun entry => filter.allows entry.level entry.target entry.fieldNames

end AccessStream.Log

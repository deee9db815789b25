/-!
# Options of a decision stream
-/

namespace AccessStream

/-- When the lines of the decision stream are flushed. -/
inductive FlushMode where
  /-- After every line. -/
  | everyRecord
  /-- Once, when the input ends. -/
  | onExit
  deriving DecidableEq, Repr

namespace FlushMode

/-- The name of a mode in settings and on the command line. -/
def name : FlushMode → String
  | everyRecord => "every-record"
  | onExit => "on-exit"

/-- The mode with the given name. -/
def ofName? (name : String) : Option FlushMode := [everyRecord, onExit].find? (·.name == name)

@[simp] theorem ofName?_name (mode : FlushMode) : ofName? mode.name = some mode := by
  cases mode <;> decide

end FlushMode

/-- The options of a decision stream. -/
structure StreamOptions where
  /-- When lines are flushed. -/
  flush : FlushMode := .everyRecord
  /-- The number of bytes that a record may have. -/
  maxRecordBytes : Nat := Nat.pow 2 20
  deriving DecidableEq, Repr

end AccessStream

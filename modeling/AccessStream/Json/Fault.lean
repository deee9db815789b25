/-!
# What can be wrong with a JSON text

Reading goes from left to right and stops at the first fault. A value of the wrong type counts when
it starts, or, for a number, a string or a word such as `true`, once it has been read to its end.
-/

namespace AccessStream.Json

/-- The first fault met in a JSON text. -/
inductive Fault where
  /-- The text breaks the grammar. -/
  | malformed
  /-- A value has another type than the one asked for. -/
  | mismatch
  /-- The text ends too early. -/
  | truncated
  deriving DecidableEq, Repr

end AccessStream.Json

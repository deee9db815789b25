import AccessStream.Decimal.Number
import AccessStream.Settings.Raw
import AccessStream.Text.Lowercase

/-!
# Settings from the environment

A variable sets the value that its name leads to: after a prefix and an underscore, two underscores
divide the name of a section from that of a field, and the case of letters does not count. Its text
is taken for a boolean or a number if it reads as one.
-/

namespace AccessStream

/-- The variables of the environment. -/
abbrev Environment := List (String × String)

namespace Settings

/-- The whole number of at most 64 bits that a text writes in decimal digits. -/
def integer? (text : List Char) : Option Int :=
  (Decimal.integer? text).filter fun value => -Nat.pow 2 63 ≤ value && value < Nat.pow 2 63

/-- The value of a variable: a boolean or a number if its text reads as one. -/
def Raw.ofVariable (text : String) : Raw :=
  if text.toLower = "true" then .boolean true
  else if text.toLower = "false" then .boolean false
  else match integer? text.toList with
    | some value => .integer value
    | none =>
      match Binary64.ofText? text.toList with
      | some value => .float value
      | none => .text text

/-- A name with a point for each two underscores. -/
def withPoints : List Char → List Char
  | '_' :: '_' :: rest => '.' :: withPoints rest
  | c :: rest => c :: withPoints rest
  | [] => []

/-- The key that a variable sets, if its name has the prefix. -/
def keyOfVariable? (variablePrefix name : String) : Option String :=
  let name := (Text.lowercase name).toList
  let start := (Text.lowercase (variablePrefix ++ "_")).toList
  if start.isPrefixOf name then some (String.ofList (withPoints (name.drop start.length))) else none

/-- The layer of all variables whose names have the prefix. -/
def ofEnvironment (variablePrefix : String) (environment : Environment) : Fields Raw :=
  environment.filterMap fun (name, text) =>
    (keyOfVariable? variablePrefix name).map fun key => (key, .ofVariable text)

end Settings

end AccessStream

import AccessStream.Policy.Document
import AccessStream.Toml.Reader
import AccessStream.Toml.Writer

/-!
# Policies in TOML

A policy is read from a TOML document by way of its document tree, in which an empty array or table
is the value that says nothing. It is written with a section for each rule and each condition of a
rule; a join of conditions is written as the value of its key, and a negation by one more name in
the header of what it negates.
-/

namespace AccessStream

namespace Policy

mutual

/-- A TOML value as policies see it. -/
def Document.ofToml : Toml.Value → Document
  | .text content => .text content
  | .integer value => if 0 ≤ value then .natural value.toNat else .other
  | .array items => .list (ofTomlItems items)
  | .table entries => .record (ofTomlEntries entries)
  | .float _ => .other
  | .boolean _ => .other
  | .datetime _ => .other
  | .unreadable => .other

/-- The items of a TOML array as policies see them. -/
def Document.ofTomlItems : List Toml.Value → List Document
  | [] => []
  | item :: items => ofToml item :: ofTomlItems items

/-- The entries of a TOML table as policies see them. -/
def Document.ofTomlEntries : List (String × Toml.Value) → List (String × Document)
  | [] => []
  | (key, value) :: entries => (key, ofToml value) :: ofTomlEntries entries

end

/-- What TOML says about policies. -/
def Dialect.toml : Dialect where
  isUnit
    | .list [] => true
    | .record [] => true
    | _ => false
  allowsExtraItems := true

/-- The policy that a TOML text says, well formed or not. -/
def ofTomlText? (text : String) : Option Policy :=
  match Toml.read? text with
  | some value => (Document.ofToml value).policy? .toml
  | none => none

end Policy

namespace Condition

/-- The pairs of the body of a test. -/
def testBody (a : Attribute) (text : String) : List (String × Toml.Value) :=
  [("attribute", .text a.key), ("value", .text text)]

mutual

/-- A condition as a TOML value. -/
def toToml : Condition → Toml.Value
  | test comparison a text => .table [(comparison.name, .table (testBody a text))]
  | all conditions => .table [("and", .array (listToToml conditions))]
  | any conditions => .table [("or", .array (listToToml conditions))]
  | not condition => .table [("not", toToml condition)]

/-- Some conditions as TOML values. -/
def listToToml : List Condition → List Toml.Value
  | [] => []
  | condition :: conditions => toToml condition :: listToToml conditions

end

/-- The section of what stands below negations, whose names end the given ones. -/
def innerSection (names : List String) : Condition → Toml.Section
  | test comparison a text =>
    ⟨false, names ++ [comparison.name], (testBody a text).map fun entry => ([entry.1], entry.2)⟩
  | all conditions => ⟨false, names, [(["and"], .array (listToToml conditions))]⟩
  | any conditions => ⟨false, names, [(["or"], .array (listToToml conditions))]⟩
  | not condition => innerSection (names ++ ["not"]) condition

/-- The sections of a condition of a rule, the first of which has the given names. -/
def toSections (names : List String) : Condition → List Toml.Section
  | test comparison a text => [⟨true, names, []⟩, innerSection names (.test comparison a text)]
  | all conditions => [⟨true, names, [(["and"], .array (listToToml conditions))]⟩]
  | any conditions => [⟨true, names, [(["or"], .array (listToToml conditions))]⟩]
  | not condition => [⟨true, names, []⟩, innerSection (names ++ ["not"]) condition]

end Condition

/-- The sections of a rule. -/
def Rule.toSections (rule : Rule) : List Toml.Section :=
  let conditions := if rule.conditions.isEmpty then [(["conditions"], Toml.Value.array [])] else []
  ⟨true, ["rules"],
    [(["name"], .text rule.name), (["effect"], .text rule.effect.name)] ++ conditions ++
      [(["priority"], .integer rule.priority.toNat)]⟩ ::
    rule.conditions.flatMap (Condition.toSections ["rules", "conditions"])

/-- The TOML text of a policy. -/
def Policy.toTomlText (policy : Policy) : String :=
  let rules := if policy.rules.isEmpty then [(["rules"], Toml.Value.array [])] else []
  Toml.write ((["default_effect"], .text policy.defaultEffect.name) :: rules)
    (policy.rules.flatMap Rule.toSections)

end AccessStream

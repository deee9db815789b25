import AccessStream.Json.Reader
import AccessStream.Policy.Document

/-!
# Policies in JSON

A policy is read from a JSON document by way of its document tree, in which `null` is the value that
says nothing, and a number counts only if it is whole and has no sign. A policy is written with all
its fields, in the order of their declaration, on indented lines.
-/

namespace AccessStream

namespace Policy

mutual

/-- A JSON document as policies see it. -/
def Document.ofJson : Json.Value → Document
  | .null => .null
  | .bool _ => .other
  | .number number =>
    match number.natural? with
    | some value => .natural value
    | none => .other
  | .string content => .text content
  | .array items => .list (ofJsonItems items)
  | .object members => .record (ofJsonMembers members)

/-- The items of a JSON array as policies see them. -/
def Document.ofJsonItems : List Json.Value → List Document
  | [] => []
  | item :: items => ofJson item :: ofJsonItems items

/-- The members of a JSON object as policies see them. -/
def Document.ofJsonMembers : List (String × Json.Value) → List (String × Document)
  | [] => []
  | (key, value) :: members => (key, ofJson value) :: ofJsonMembers members

end

/-- What JSON says about policies. -/
def Dialect.json : Dialect where
  isUnit
    | .null => true
    | _ => false
  allowsExtraItems := false

/-- The policy that a JSON text says, well formed or not. -/
def ofJsonText? (text : String) : Option Policy :=
  match Json.Value.read text with
  | .ok value => (Document.ofJson value).policy? .json
  | .error _ => none

end Policy

namespace Condition

mutual

/-- A condition as a JSON document. -/
def toJson : Condition → Json.Value
  | test comparison a text =>
    .object [(comparison.name, .object [("attribute", .string a.key), ("value", .string text)])]
  | all conditions => .object [("and", .array (listToJson conditions))]
  | any conditions => .object [("or", .array (listToJson conditions))]
  | not condition => .object [("not", toJson condition)]

/-- Some conditions as JSON documents. -/
def listToJson : List Condition → List Json.Value
  | [] => []
  | condition :: conditions => toJson condition :: listToJson conditions

end

end Condition

/-- A rule as a JSON document. -/
def Rule.toJson (rule : Rule) : Json.Value :=
  .object [("name", .string rule.name), ("effect", .string rule.effect.name),
    ("conditions", .array (Condition.listToJson rule.conditions)),
    ("priority", .ofNat rule.priority.toNat)]

/-- A policy as a JSON document. -/
def Policy.toJson (policy : Policy) : Json.Value :=
  .object [("default_effect", .string policy.defaultEffect.name),
    ("rules", .array (policy.rules.map Rule.toJson))]

/-- The JSON text of a policy. -/
def Policy.toJsonText (policy : Policy) : String := policy.toJson.toPretty

end AccessStream

import AccessStream.Fields
import AccessStream.Policy.Basic

/-!
# Policies as documents

What a policy looks like in a document, whatever the format of the document. A policy, a rule and
the body of a test are records: fields by name, none of them unknown or repeated, or a list of
fields in their order. A condition is a record of one field, whose name says what the condition is.
Effects and attributes are words.
-/

namespace AccessStream.Policy

/-- A document, as far as policies can tell. -/
inductive Document where
  /-- A text. -/
  | text (content : String)
  /-- A whole number written without a sign that makes it negative. -/
  | natural (value : Nat)
  /-- A list. -/
  | list (items : List Document)
  /-- A record, its fields in the order in which they are written. -/
  | record (fields : List (String × Document))
  /-- The absence of a value. -/
  | null
  /-- A value of another type. -/
  | other
  deriving Repr

/-- What the formats of documents disagree about. -/
structure Dialect where
  /-- Whether a document says no more than that it is there. -/
  isUnit : Document → Bool
  /-- Whether a list of fields may have more items than there are fields. -/
  allowsExtraItems : Bool

namespace Document

/-- The fields of a record that may have fields of the given names. -/
def fields? (dialect : Dialect) (names : List String) : Document → Option (Fields Document)
  | .record fields =>
    if fields.all (·.1 ∈ names) && (fields.map (·.1)).Nodup then some fields else none
  | .list items =>
    if items.length ≤ names.length || dialect.allowsExtraItems then some (names.zip items) else none
  | _ => none

/-- The text that a document consists of. -/
def text? : Document → Option String
  | .text content => some content
  | _ => none

/-- The word that a document says: a text, or the name of the only field of a record whose value
says nothing. -/
def word? (dialect : Dialect) : Document → Option String
  | .text content => some content
  | .record [(name, value)] => if dialect.isUnit value then some name else none
  | _ => none

/-- The number that a document says, if it is below 2^32. -/
def priority? : Document → Option UInt32
  | .natural value => if value < Nat.pow 2 32 then some value.toUInt32 else none
  | _ => none

/-- The effect that a document says. -/
def effect? (dialect : Dialect) (document : Document) : Option Effect :=
  (document.word? dialect).bind Effect.ofName?

/-- The attribute that a document says. -/
def attribute? (dialect : Dialect) (document : Document) : Option Attribute :=
  (document.word? dialect).bind Attribute.ofKey?

/-- The test with the given comparison whose body is a document. -/
def test? (dialect : Dialect) (comparison : Comparison) (document : Document) :
    Option Condition := do
  let fields ← document.fields? dialect ["attribute", "value"]
  let a ← fields.read? "attribute" (attribute? dialect)
  let text ← fields.read? "value" text?
  return .test comparison a text

mutual

/-- The condition that a document says. -/
def condition? (dialect : Dialect) : Document → Option Condition
  | .record [(name, body)] =>
    if name = "and" then
      match body with
      | .list items => (conditions? dialect items).map .all
      | _ => none
    else if name = "or" then
      match body with
      | .list items => (conditions? dialect items).map .any
      | _ => none
    else if name = "not" then (condition? dialect body).map .not
    else
      match Comparison.ofName? name with
      | some comparison => body.test? dialect comparison
      | none => none
  | _ => none

/-- The conditions that some documents say. -/
def conditions? (dialect : Dialect) : List Document → Option (List Condition)
  | [] => some []
  | document :: documents => do
    let condition ← condition? dialect document
    return condition :: (← conditions? dialect documents)

end

/-- The items of a list. -/
def items? : Document → Option (List Document)
  | .list items => some items
  | _ => none

/-- The rule that a document says. -/
def rule? (dialect : Dialect) (document : Document) : Option Rule := do
  let fields ← document.fields? dialect ["name", "effect", "conditions", "priority"]
  let name ← fields.read? "name" text?
  let effect ← fields.read? "effect" (effect? dialect)
  let conditions ← fields.readOr "conditions" [] fun document =>
    document.items?.bind (conditions? dialect)
  let priority ← fields.readOr "priority" 0 priority?
  return { name, effect, conditions, priority }

/-- The policy that a document says. -/
def policy? (dialect : Dialect) (document : Document) : Option Policy := do
  let fields ← document.fields? dialect ["default_effect", "rules"]
  let defaultEffect ← fields.readOr "default_effect" .deny (effect? dialect)
  let rules ← fields.readOr "rules" [] fun document =>
    document.items?.bind (·.mapM (rule? dialect))
  return { defaultEffect, rules }

end Document

end AccessStream.Policy

/-!
# Attributes

The attributes of a request that policies can name, with the keys under which records carry them. A
policy refers to an attribute by its constructor, so a misspelt key in a policy document is refused
when the document is read.
-/

namespace AccessStream

/-- An attribute that a policy can name. -/
inductive Attribute where
  /-- Whether the gateway authenticated the principal; its value is `true` when it did. -/
  | authenticated
  /-- The role of the principal. -/
  | role
  /-- The department of the principal. -/
  | department
  /-- The groups of the principal, as one free-form text. -/
  | groups
  /-- The e-mail address of the principal. -/
  | email
  deriving DecidableEq, Repr

namespace Attribute

/-- Every attribute, in the order of the schema. -/
def all : List Attribute := [authenticated, role, department, groups, email]

/-- The key under which records carry an attribute. -/
def key : Attribute → String
  | authenticated => "azure.authenticated"
  | role => "azure.role"
  | department => "azure.department"
  | groups => "azure.groups"
  | email => "azure.email"

/-- The name of an attribute among the fields of a request. -/
def fieldName : Attribute → String
  | authenticated => "authenticated"
  | role => "role"
  | department => "department"
  | groups => "groups"
  | email => "email"

/-- The attribute with the given key; keys are compared exactly. -/
def ofKey? (key : String) : Option Attribute := all.find? (·.key == key)

/-- The attribute with the given field name. -/
def ofFieldName? (name : String) : Option Attribute := all.find? (·.fieldName == name)

/-- The position of an attribute in `all`. -/
def position : Attribute → Nat
  | authenticated => 0
  | role => 1
  | department => 2
  | groups => 3
  | email => 4

theorem mem_all (a : Attribute) : a ∈ all := by cases a <;> decide

@[simp] theorem ofKey?_key (a : Attribute) : ofKey? a.key = some a := by
  cases a <;> decide

/-- A key names an attribute exactly when it is that attribute's key. -/
theorem ofKey?_eq_some_iff {key : String} {a : Attribute} :
    ofKey? key = some a ↔ key = a.key := by
  constructor
  · intro h
    have found := List.find?_some h
    exact (beq_iff_eq.1 found).symm
  · rintro rfl
    exact ofKey?_key a

end Attribute

end AccessStream

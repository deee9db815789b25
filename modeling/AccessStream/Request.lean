import AccessStream.Attribute
import AccessStream.AttributeSet

/-!
# Requests

What the rules of a policy look at: the values of the attributes of the schema, each present or
absent. A request is the part of an attribute set that falls under the keys of the schema; its other
keys are dropped.
-/

namespace AccessStream

/-- The values of the attributes that policies can name. -/
structure Request where
  /-- Whether the gateway authenticated the principal. -/
  authenticated : Option String := none
  /-- The role of the principal. -/
  role : Option String := none
  /-- The department of the principal. -/
  department : Option String := none
  /-- The groups of the principal. -/
  groups : Option String := none
  /-- The e-mail address of the principal. -/
  email : Option String := none
  deriving DecidableEq, Repr

namespace Request

/-- The request in which every attribute is absent. -/
def empty : Request := {}

/-- The value of an attribute, if it is present. -/
def get? (request : Request) : Attribute → Option String
  | .authenticated => request.authenticated
  | .role => request.role
  | .department => request.department
  | .groups => request.groups
  | .email => request.email

/-- The request with the value of one attribute replaced, or made absent. -/
def put (request : Request) (a : Attribute) (value : Option String) : Request :=
  match a with
  | .authenticated => { request with authenticated := value }
  | .role => { request with role := value }
  | .department => { request with department := value }
  | .groups => { request with groups := value }
  | .email => { request with email := value }

/-- The request with an attribute present. -/
def insert (request : Request) (a : Attribute) (value : String) : Request :=
  request.put a (some value)

/-- The part of an attribute set that falls under the keys of the schema. -/
def ofSet (set : AttributeSet) : Request where
  authenticated := set.get? Attribute.authenticated.key
  role := set.get? Attribute.role.key
  department := set.get? Attribute.department.key
  groups := set.get? Attribute.groups.key
  email := set.get? Attribute.email.key

@[simp] theorem get?_empty (a : Attribute) : empty.get? a = none := by cases a <;> rfl

theorem get?_put (request : Request) (a b : Attribute) (value : Option String) :
    (request.put a value).get? b = if a = b then value else request.get? b := by
  cases a <;> cases b <;> rfl

@[simp] theorem get?_ofSet (set : AttributeSet) (a : Attribute) :
    (ofSet set).get? a = set.get? a.key := by
  cases a <;> rfl

/-- Two requests with the same values are equal. -/
theorem ext_get? {a b : Request} (h : ∀ attr, a.get? attr = b.get? attr) : a = b := by
  cases a; cases b
  have h₁ := h .authenticated
  have h₂ := h .role
  have h₃ := h .department
  have h₄ := h .groups
  have h₅ := h .email
  simp only [get?] at h₁ h₂ h₃ h₄ h₅
  simp [*]

end Request

end AccessStream

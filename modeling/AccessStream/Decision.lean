/-!
# Effects and decisions

A rule of a policy allows or denies; the answer to a request is that it is authorized or
unauthorized.
-/

namespace AccessStream

/-- What a rule does with the requests that it matches. -/
inductive Effect where
  /-- Grant access. -/
  | allow
  /-- Refuse access. -/
  | deny
  deriving DecidableEq, Repr

/-- The word for an effect in policy documents. -/
def Effect.name : Effect → String
  | .allow => "allow"
  | .deny => "deny"

/-- The effect with the given name. -/
def Effect.ofName? (name : String) : Option Effect :=
  [Effect.allow, Effect.deny].find? (·.name == name)

/-- The answer to a request. -/
inductive Decision where
  /-- Access is granted. -/
  | authorized
  /-- Access is refused. -/
  | unauthorized
  deriving DecidableEq, Repr

/-- The word for a decision in the decision stream. -/
def Decision.name : Decision → String
  | .authorized => "authorized"
  | .unauthorized => "unauthorized"

/-- The decision that an effect leads to. -/
def Effect.decision : Effect → Decision
  | .allow => .authorized
  | .deny => .unauthorized

@[simp] theorem Effect.ofName?_name (effect : Effect) : ofName? effect.name = some effect := by
  cases effect <;> decide

/-- A name is that of an effect exactly when it is the word for it. -/
theorem Effect.ofName?_eq_some_iff {name : String} {effect : Effect} :
    ofName? name = some effect ↔ name = effect.name := by
  constructor
  · intro h
    have found := List.find?_some h
    exact (beq_iff_eq.1 found).symm
  · rintro rfl
    exact ofName?_name effect

end AccessStream

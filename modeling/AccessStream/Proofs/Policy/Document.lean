import AccessStream.Proofs.Policy.Acceptance

/-!
# Policies as documents of their own

Every condition has a document that states it (`Document.ofCondition`), and so have rules and
policies: records of all their fields, in any order (`Document.statesRule_of_fields`,
`Document.states_of_fields`).
-/

namespace AccessStream.Policy.Document

variable {fields : List (String × Document)}

mutual

/-- A condition as a document. -/
def ofCondition : Condition → Document
  | .test comparison a pattern =>
    .record [(comparison.name, .record [("attribute", .text a.key), ("value", .text pattern)])]
  | .all conditions => .record [("and", .list (ofConditions conditions))]
  | .any conditions => .record [("or", .list (ofConditions conditions))]
  | .not condition => .record [("not", ofCondition condition)]

/-- Some conditions as documents. -/
def ofConditions : List Condition → List Document
  | [] => []
  | condition :: conditions => ofCondition condition :: ofConditions conditions

end

theorem forall₂_ofConditions {conditions : List Condition}
    (h : ∀ condition ∈ conditions, StatesCondition (ofCondition condition) condition) :
    List.Forall₂ StatesCondition (ofConditions conditions) conditions := by
  induction conditions with
  | nil => exact .nil
  | cons condition conditions ih =>
    rw [List.forall_mem_cons] at h
    exact .cons h.1 (ih h.2)

theorem statesCondition_ofCondition (condition : Condition) :
    StatesCondition (ofCondition condition) condition := by
  induction condition with
  | test comparison a pattern =>
    have only : HasOnly ["attribute", "value"]
        [("attribute", .text a.key), ("value", .text pattern)] := ⟨by simp, by simp⟩
    exact .test only List.mem_cons_self (List.mem_cons_of_mem _ List.mem_cons_self)
  | all conditions ih => exact .all (forall₂_ofConditions ih)
  | any conditions ih => exact .any (forall₂_ofConditions ih)
  | not condition ih => exact .not ih

/-- A record of its four fields states a rule. -/
theorem statesRule_of_fields {rule : Rule}
    (only : HasOnly ["name", "effect", "conditions", "priority"] fields)
    (name : ("name", .text rule.name) ∈ fields)
    (effect : ("effect", .text rule.effect.name) ∈ fields)
    (conditions : ("conditions", .list (ofConditions rule.conditions)) ∈ fields)
    (priority : ("priority", .natural rule.priority.toNat) ∈ fields) :
    StatesRule (record fields) rule := by
  have stated := forall₂_ofConditions fun condition (_ : condition ∈ rule.conditions) =>
    statesCondition_ofCondition condition
  exact .intro only name effect (.inl ⟨_, conditions, _, rfl, stated⟩) (.inl ⟨_, priority, rfl⟩)

/-- A record of its two fields states a policy. -/
theorem states_of_fields {policy : Policy} {rules : List Document}
    (only : HasOnly ["default_effect", "rules"] fields)
    (defaultEffect : ("default_effect", .text policy.defaultEffect.name) ∈ fields)
    (rules_field : ("rules", .list rules) ∈ fields)
    (stated : List.Forall₂ StatesRule rules policy.rules) : (record fields).States policy :=
  .intro only (.inl ⟨_, defaultEffect, rfl⟩) (.inl ⟨_, rules_field, _, rfl, stated⟩)

end AccessStream.Policy.Document

import AccessStream.Evaluation
import AccessStream.Proofs.Policy.Parts
import Mathlib.Data.List.Find

/-!
# What the answer of a policy depends on

A request enters the evaluation of a policy only by what the tests come to. Here conditions are
evaluated for any outcomes of the tests (`Condition.holdsBy`), and two evaluations agree when their
outcomes are the same for the tests that occur (`Evaluator.explainBy_congr`).
-/

namespace AccessStream

/-! ## Evaluation for given outcomes of the tests -/

/-- What the tests of a policy come to. -/
abbrev Outcomes := Comparison → Attribute → String → Bool

namespace Condition

mutual

/-- Whether a condition holds for the given outcomes of the tests. -/
def holdsBy (outcome : Outcomes) : Condition → Bool
  | test comparison a text => outcome comparison a text
  | all conditions => allHoldBy outcome conditions
  | any conditions => anyHoldsBy outcome conditions
  | not condition => !holdsBy outcome condition

/-- Whether all conditions hold for the given outcomes of the tests. -/
def allHoldBy (outcome : Outcomes) : List Condition → Bool
  | [] => true
  | condition :: conditions => holdsBy outcome condition && allHoldBy outcome conditions

/-- Whether at least one condition holds for the given outcomes of the tests. -/
def anyHoldsBy (outcome : Outcomes) : List Condition → Bool
  | [] => false
  | condition :: conditions => holdsBy outcome condition || anyHoldsBy outcome conditions

end

end Condition

/-- The answer of an evaluator for the given outcomes of the tests. -/
def Evaluator.explainBy (evaluator : Evaluator) (outcome : Outcomes) : Evaluation :=
  (evaluator.rules.find? fun rule => Condition.allHoldBy outcome rule.conditions).elim
    (.byDefault evaluator.defaultEffect) .byRule

/-- What the tests come to for a request. -/
def Request.outcomes (request : Request) : Outcomes :=
  fun comparison a text => comparison.holds (request.get? a) text

namespace Condition

variable {outcome other : Outcomes} {conditions : List Condition}

theorem allHoldBy_congr (h : ∀ c ∈ conditions, c.holdsBy outcome = c.holdsBy other) :
    allHoldBy outcome conditions = allHoldBy other conditions := by
  induction conditions with
  | nil => rfl
  | cons condition conditions ih =>
    obtain ⟨first, others⟩ := List.forall_mem_cons.1 h
    rw [allHoldBy, allHoldBy, first, ih others]

theorem anyHoldsBy_congr (h : ∀ c ∈ conditions, c.holdsBy outcome = c.holdsBy other) :
    anyHoldsBy outcome conditions = anyHoldsBy other conditions := by
  induction conditions with
  | nil => rfl
  | cons condition conditions ih =>
    obtain ⟨first, others⟩ := List.forall_mem_cons.1 h
    rw [anyHoldsBy, anyHoldsBy, first, ih others]

/-- A condition holds alike for outcomes that are the same for the tests that occur in it. -/
theorem holdsBy_congr (condition : Condition)
    (agree : ∀ comparison a text, (test comparison a text).OccursIn condition →
      outcome comparison a text = other comparison a text) :
    condition.holdsBy outcome = condition.holdsBy other := by
  induction condition with
  | test comparison a text =>
    rw [holdsBy, holdsBy]
    exact agree comparison a text .self
  | all conditions ih =>
    have each : ∀ c ∈ conditions, c.holdsBy outcome = c.holdsBy other := by
      intro c joined
      exact ih c joined fun comparison a text inside =>
        agree comparison a text (.all joined inside)
    rw [holdsBy, holdsBy, allHoldBy_congr each]
  | any conditions ih =>
    have each : ∀ c ∈ conditions, c.holdsBy outcome = c.holdsBy other := by
      intro c joined
      exact ih c joined fun comparison a text inside =>
        agree comparison a text (.any joined inside)
    rw [holdsBy, holdsBy, anyHoldsBy_congr each]
  | not condition ih =>
    have same : condition.holdsBy outcome = condition.holdsBy other :=
      ih fun comparison a text inside => agree comparison a text (.not inside)
    rw [holdsBy, holdsBy, same]

mutual

theorem holdsBy_outcomes (request : Request) (condition : Condition) :
    condition.holdsBy request.outcomes = condition.holds request := by
  match condition with
  | .test comparison a text => rw [holdsBy, holds, Request.outcomes]
  | .all conditions => rw [holdsBy, holds, allHoldBy_outcomes request conditions]
  | .any conditions => rw [holdsBy, holds, anyHoldsBy_outcomes request conditions]
  | .not condition => rw [holdsBy, holds, holdsBy_outcomes request condition]

theorem allHoldBy_outcomes (request : Request) (conditions : List Condition) :
    allHoldBy request.outcomes conditions = allHold request conditions := by
  match conditions with
  | [] => rw [allHoldBy, allHold]
  | condition :: conditions =>
    rw [allHoldBy, allHold, holdsBy_outcomes request condition,
      allHoldBy_outcomes request conditions]

theorem anyHoldsBy_outcomes (request : Request) (conditions : List Condition) :
    anyHoldsBy request.outcomes conditions = anyHolds request conditions := by
  match conditions with
  | [] => rw [anyHoldsBy, anyHolds]
  | condition :: conditions =>
    rw [anyHoldsBy, anyHolds, holdsBy_outcomes request condition,
      anyHoldsBy_outcomes request conditions]

end

end Condition

/-! ## The tests of a policy -/

/-- A test occurs in one of the conditions of a policy. -/
def Policy.Tests (policy : Policy) (comparison : Comparison) (a : Attribute) (text : String) :
    Prop :=
  ∃ rule ∈ policy.rules, ∃ condition ∈ rule.conditions,
    (Condition.test comparison a text).OccursIn condition

instance (policy : Policy) (comparison : Comparison) (a : Attribute) (text : String) :
    Decidable (policy.Tests comparison a text) :=
  decidable_of_iff
    (∃ rule ∈ policy.rules, ∃ condition ∈ rule.conditions, (comparison, a, text) ∈ condition.tests)
    (by simp only [Policy.Tests, Condition.mem_tests_iff])

namespace Evaluator

variable {policy : Policy}

theorem explainBy_outcomes (evaluator : Evaluator) (request : Request) :
    evaluator.explainBy request.outcomes = evaluator.explain request := by
  have found : (evaluator.rules.find? fun rule =>
      Condition.allHoldBy request.outcomes rule.conditions) = evaluator.firstMatch? request := by
    simp only [Condition.allHoldBy_outcomes]
    rfl
  rw [explainBy, explain, found]
  cases evaluator.firstMatch? request <;> rfl

/-- The answer of a policy is the same for outcomes that are the same for its tests. -/
theorem explainBy_congr {outcome other : Outcomes}
    (agree : ∀ comparison a text, policy.Tests comparison a text →
      outcome comparison a text = other comparison a text) :
    (ofPolicy policy).explainBy outcome = (ofPolicy policy).explainBy other := by
  have each : ∀ rule ∈ (ofPolicy policy).rules,
      Condition.allHoldBy outcome rule.conditions = Condition.allHoldBy other rule.conditions := by
    intro rule asked
    have declared : rule ∈ policy.rules := List.mem_mergeSort.1 asked
    refine Condition.allHoldBy_congr fun condition listed => condition.holdsBy_congr ?_
    intro comparison a text inside
    exact agree comparison a text ⟨rule, declared, condition, listed, inside⟩
  rw [explainBy, explainBy, List.find?_congr each]

end Evaluator

end AccessStream

import AccessStream.Command.Explanation
import AccessStream.Proofs.AttributeSet
import AccessStream.Proofs.Policy.Outcomes

/-!
# What a policy asks for

The answer of a policy depends on an attribute set only through the attributes that its conditions
name, at whatever depth (`Evaluator.explain_congr`). The keys of the set that belong to no attribute
are those of which no policy can ask (`AttributeSet.mem_ignoredKeys_iff`).
-/

namespace AccessStream

/-! ## Attributes that are named -/

/-- A condition tests an attribute, itself or in a condition that it joins or negates. -/
inductive Condition.Mentions (a : Attribute) : Condition → Prop
  | test {comparison : Comparison} {text : String} : Mentions a (.test comparison a text)
  | all {conditions : List Condition} {condition : Condition} :
      condition ∈ conditions → Mentions a condition → Mentions a (.all conditions)
  | any {conditions : List Condition} {condition : Condition} :
      condition ∈ conditions → Mentions a condition → Mentions a (.any conditions)
  | not {condition : Condition} : Mentions a condition → Mentions a (.not condition)

/-- One of the conditions of a policy tests an attribute. -/
def Policy.Mentions (policy : Policy) (a : Attribute) : Prop :=
  ∃ rule ∈ policy.rules, ∃ condition ∈ rule.conditions, condition.Mentions a

theorem Condition.mentions_of_occursIn {comparison : Comparison} {a : Attribute} {text : String}
    {condition : Condition} (inside : (test comparison a text).OccursIn condition) :
    condition.Mentions a := by
  induction inside with
  | self => exact .test
  | all joined _ ih => exact .all joined ih
  | any joined _ ih => exact .any joined ih
  | not _ ih => exact .not ih

/-- Requests with the same values of the attributes that a policy names have the same answer, with
the same ground. -/
theorem Evaluator.explain_congr {policy : Policy} {r s : Request}
    (agree : ∀ a, policy.Mentions a → r.get? a = s.get? a) :
    (ofPolicy policy).explain r = (ofPolicy policy).explain s := by
  rw [← explainBy_outcomes, ← explainBy_outcomes]
  refine explainBy_congr fun comparison a text tested => ?_
  obtain ⟨rule, declared, condition, listed, inside⟩ := tested
  have named : policy.Mentions a :=
    ⟨rule, declared, condition, listed, Condition.mentions_of_occursIn inside⟩
  rw [Request.outcomes, Request.outcomes, agree a named]

/-! ## Keys that are ignored -/

theorem Attribute.ofKey?_eq_none_iff {key : String} :
    ofKey? key = none ↔ ∀ a : Attribute, a.key ≠ key := by
  rw [ofKey?, List.find?_eq_none]
  constructor
  · intro h a
    have := h a a.mem_all
    simpa using this
  · intro h a _
    simpa using h a

namespace AttributeSet

theorem mem_ignoredKeys_iff {set : AttributeSet} {key : String} :
    key ∈ set.ignoredKeys ↔ set.contains key = true ∧ ∀ a : Attribute, a.key ≠ key := by
  rw [ignoredKeys, List.mem_filter, mem_keys_iff, Option.isNone_iff_eq_none,
    Attribute.ofKey?_eq_none_iff]

end AttributeSet

end AccessStream

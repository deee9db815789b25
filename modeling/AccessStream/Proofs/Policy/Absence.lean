import AccessStream.Proofs.Policy.Outcomes
import AccessStream.Proofs.Policy.Standard
import AccessStream.Proofs.Policy.Validation

/-!
# Attributes that are absent

An absent attribute reads as the empty text where a text is looked for inside its value. In a
well-formed policy every test of an absent attribute fails all the same, so its answers are those of
an evaluation that knows no default value; and only a test for equality with the empty text tells an
absent attribute from an empty one.
-/

namespace AccessStream

/-- What the tests come to for a request if those of absent attributes fail, whatever they look
for. -/
def Request.strictOutcomes (request : Request) : Outcomes :=
  fun comparison a text => (request.get? a).any fun value => comparison.holds (some value) text

theorem Policy.IsValid.ne_empty {policy : Policy} (valid : policy.IsValid) {comparison : Comparison}
    {a : Attribute} {text : String} (tested : policy.Tests comparison a text)
    (pattern : comparison ≠ .equals) : text ≠ "" := by
  rintro rfl
  obtain ⟨rule, declared, condition, listed, inside⟩ := tested
  have clean := valid.flaw?_eq_none declared listed
  exact pattern ((Condition.flaw?_eq_none_iff.1 clean).2 comparison a inside)

/-! ## Tests of absent and of empty attributes -/

namespace Request

variable {request : Request} {comparison : Comparison} {a : Attribute} {text : String}

theorem outcomes_eq_false (absent : request.get? a = none)
    (h : comparison = .equals ∨ text ≠ "") : request.outcomes comparison a text = false := by
  rw [outcomes, absent]
  rcases h with rfl | h
  · rfl
  · exact comparison.holds_none h

theorem outcomes_eq_strictOutcomes
    (h : request.get? a = none → request.outcomes comparison a text = false) :
    request.outcomes comparison a text = request.strictOutcomes comparison a text := by
  cases present : request.get? a with
  | none =>
    rw [h present, strictOutcomes, present]
    rfl
  | some value => rw [outcomes, strictOutcomes, present, Option.any_some]

theorem put_get?_self (request : Request) (a : Attribute) :
    request.put a (request.get? a) = request := by
  cases a <;> rfl

/-- A test has the same outcome whether an attribute is absent or empty, unless it is a test of the
attribute for equality with the empty text. -/
theorem outcomes_put_empty (request : Request) {b : Attribute}
    (other : ¬ (comparison = .equals ∧ b = a ∧ text = "")) :
    (request.put a (some "")).outcomes comparison b text =
      (request.put a none).outcomes comparison b text := by
  rw [outcomes, outcomes, get?_put, get?_put]
  by_cases same : a = b
  · rw [if_pos same, if_pos same]
    cases comparison with
    | equals =>
      have nonempty : ¬ text = "" := fun empty => other ⟨rfl, same.symm, empty⟩
      simp [Comparison.holds, Ne.symm nonempty]
    | contains => rfl
    | endsWith => rfl
  · rw [if_neg same, if_neg same]

end Request

theorem Evaluator.explain_put_empty {policy : Policy} {a : Attribute}
    (untested : ¬ policy.Tests .equals a "") (request : Request) :
    (ofPolicy policy).explain (request.put a (some "")) =
      (ofPolicy policy).explain (request.put a none) := by
  rw [← explainBy_outcomes, ← explainBy_outcomes]
  refine explainBy_congr fun comparison b text tested => request.outcomes_put_empty ?_
  rintro ⟨rfl, rfl, rfl⟩
  exact untested tested

/-- In a well-formed policy every test of an absent attribute fails, so the policy answers as if
absent attributes had no value to look at. And it answers alike whether an attribute is absent or
empty, unless it tests the attribute for equality with the empty text. -/
theorem Evaluator.explain_of_absent {policy : Policy} (valid : policy.IsValid) (request : Request) :
    (∀ comparison a text, policy.Tests comparison a text → request.get? a = none →
      (Condition.test comparison a text).holds request = false) ∧
    (ofPolicy policy).explain request = (ofPolicy policy).explainBy request.strictOutcomes ∧
    ∀ a, ¬ policy.Tests .equals a "" →
      (request.get? a = none →
        (ofPolicy policy).explain (request.put a (some "")) = (ofPolicy policy).explain request) ∧
      (request.get? a = some "" →
        (ofPolicy policy).explain (request.put a none) = (ofPolicy policy).explain request) := by
  have fails : ∀ comparison a text, policy.Tests comparison a text → request.get? a = none →
      request.outcomes comparison a text = false := by
    intro comparison a text tested absent
    apply Request.outcomes_eq_false absent
    by_cases pattern : comparison = .equals
    · exact .inl pattern
    · exact .inr (valid.ne_empty tested pattern)
  refine ⟨?_, ?_, fun a untested => ⟨fun absent => ?_, fun empty => ?_⟩⟩
  · intro comparison a text tested absent
    rw [Condition.holds]
    exact fails comparison a text tested absent
  · rw [← explainBy_outcomes]
    refine explainBy_congr fun comparison a text tested => ?_
    exact Request.outcomes_eq_strictOutcomes (fails comparison a text tested)
  · have same := explain_put_empty untested request
    rwa [← absent, request.put_get?_self] at same
  · have same := explain_put_empty untested request
    rw [← empty, request.put_get?_self] at same
    exact same.symm

/-- The role is absent. So no test of it succeeds, whatever is joined or negated around it, and with
an empty role the gate would still be passed. -/
theorem Evaluator.explain_of_absent_role :
    let policy : Policy :=
      { rules :=
          [{ name := "gate", effect := .deny, priority := 1
             conditions := [.any [.test .contains .role "guest", .test .equals .role "none"]] },
           { name := "staff", effect := .allow
             conditions := [.not (.all [.test .endsWith .role "guest", .all []])] }] }
    let request : Request := Request.empty.insert .email "a@example.com"
    policy.IsValid ∧ request.get? .role = none ∧ ¬ policy.Tests .equals .role "" ∧
      (Condition.test .endsWith .role "guest").holds request = false ∧
      ((ofPolicy policy).explainBy request.strictOutcomes).matchedRule = some "staff" ∧
      ((ofPolicy policy).explain (request.put .role (some ""))).matchedRule = some "staff" := by
  intro policy request
  have valid : policy.IsValid := by decide +kernel
  have untested : ¬ policy.Tests .equals .role "" := by decide +kernel
  have tested : policy.Tests .endsWith .role "guest" := by decide +kernel
  have matched : ((ofPolicy policy).explain request).matchedRule = some "staff" := by
    rw [explain, firstMatch?, rules_ofPolicy_of_pairwise (by decide +kernel)]
    decide +kernel
  obtain ⟨fails, strict, unchanged⟩ := explain_of_absent valid request
  refine ⟨valid, by decide, untested, fails _ _ _ tested (by decide), ?_, ?_⟩
  · rw [← strict]
    exact matched
  · rw [(unchanged .role untested).1 (by decide)]
    exact matched

/-- A test for equality with the empty text does tell an absent attribute from an empty one. -/
example :
    let policy : Policy :=
      { rules := [{ name := "unassigned", effect := .allow
                    conditions := [.test .equals .role ""] }] }
    policy.IsValid ∧ ((Evaluator.ofPolicy policy).explain .empty).effect = .deny ∧
      ((Evaluator.ofPolicy policy).explain (Request.empty.insert .role "")).effect = .allow := by
  decide +kernel

end AccessStream

import AccessStream.Proofs.Policy.Meaning
import Mathlib.Tactic.SplitIfs

/-!
# The standard policy as a decision list

The standard policy is a table of rules with priorities. Here it is written out as a list of tests
on the keys of an attribute set, which are made one after the other until one succeeds, and the
evaluator of the policy is shown to give the same answers (`explain_standard`).
-/

namespace AccessStream

/-! ## Looking inside the value of a key -/

namespace AttributeSet

/-- A key is present, and its value has a text somewhere inside. -/
def HasInside (set : AttributeSet) (key text : String) : Prop :=
  ∃ before after, set.get? key = some (before ++ text ++ after)

/-- A key is present, and its value ends with a text. -/
def HasEnd (set : AttributeSet) (key text : String) : Prop :=
  ∃ before, set.get? key = some (before ++ text)

theorem any_contains_iff_hasInside {set : AttributeSet} {key text : String} :
    (set.get? key).any (Text.contains · text) = true ↔ set.HasInside key text := by
  rw [HasInside]
  cases set.get? key with
  | none => simp
  | some value => simp only [Option.any_some, Text.contains_iff, Option.some.injEq]

theorem any_endsWith_iff_hasEnd {set : AttributeSet} {key text : String} :
    (set.get? key).any (Text.endsWith · text) = true ↔ set.HasEnd key text := by
  rw [HasEnd]
  cases set.get? key with
  | none => simp
  | some value => simp only [Option.any_some, Text.endsWith_iff, Option.some.injEq]

instance (set : AttributeSet) (key text : String) : Decidable (set.HasInside key text) :=
  decidable_of_iff _ any_contains_iff_hasInside

instance (set : AttributeSet) (key text : String) : Decidable (set.HasEnd key text) :=
  decidable_of_iff _ any_endsWith_iff_hasEnd

end AttributeSet

/-! ## Tests of attributes that are absent -/

namespace Comparison

/-- A text that is not empty is not found in the value of an absent attribute. -/
theorem holds_none (comparison : Comparison) {text : String} (h : text ≠ "") :
    comparison.holds none text = false := by
  cases comparison with
  | equals => rfl
  | contains =>
    refine Bool.eq_false_iff.2 fun found => h ?_
    obtain ⟨before, after, empty⟩ := Text.contains_iff.1 found
    have := congrArg String.length empty
    rw [← String.length_eq_zero_iff]
    simp at this
    omega
  | endsWith =>
    refine Bool.eq_false_iff.2 fun found => h ?_
    obtain ⟨before, empty⟩ := Text.endsWith_iff.1 found
    have := congrArg String.length empty
    rw [← String.length_eq_zero_iff]
    simp at this
    omega

theorem holds_contains_iff_hasInside {set : AttributeSet} {key text : String} (h : text ≠ "") :
    contains.holds (set.get? key) text = true ↔ set.HasInside key text := by
  rw [← AttributeSet.any_contains_iff_hasInside]
  cases set.get? key with
  | none => simp [holds_none contains h]
  | some value => rfl

theorem holds_endsWith_iff_hasEnd {set : AttributeSet} {key text : String} (h : text ≠ "") :
    endsWith.holds (set.get? key) text = true ↔ set.HasEnd key text := by
  rw [← AttributeSet.any_endsWith_iff_hasEnd]
  cases set.get? key with
  | none => simp [holds_none endsWith h]
  | some value => rfl

end Comparison

/-! ## The decision list -/

/-- The standard policy as a decision list: the decision on an attribute set, and the name of the
rule that it is due to. -/
def standardAnswer (set : AttributeSet) : Decision × Option String :=
  if set.get? "azure.authenticated" ≠ some "true" then
    (.unauthorized, some "authentication-gate")
  else if set.get? "azure.role" = some "admin" then
    (.authorized, some "admin-override")
  else if set.get? "azure.department" = some "Engineering" ∧
      set.HasInside "azure.groups" "developers" then
    (.authorized, some "engineering-developers")
  else if set.get? "azure.role" = some "user" ∧ set.HasEnd "azure.email" "@example.com" then
    (.authorized, some "example-domain-users")
  else
    (.unauthorized, none)

namespace Evaluator

/-- Rules that are declared in the order of descending priority are asked in that order. -/
theorem rules_ofPolicy_of_pairwise {policy : Policy}
    (h : policy.rules.Pairwise fun a b => mayPrecede a b) :
    (ofPolicy policy).rules = policy.rules :=
  List.mergeSort_of_pairwise h

end Evaluator

/-- The rule of the standard policy that matches first, by its place in the table. -/
theorem firstMatch?_standard (set : AttributeSet) :
    (Evaluator.ofPolicy .standard).firstMatch? (Request.ofSet set) =
      if set.get? "azure.authenticated" ≠ some "true" then Policy.standard.rules[0]?
      else if set.get? "azure.role" = some "admin" then Policy.standard.rules[1]?
      else if set.get? "azure.department" = some "Engineering" ∧
          set.HasInside "azure.groups" "developers" then Policy.standard.rules[2]?
      else if set.get? "azure.role" = some "user" ∧ set.HasEnd "azure.email" "@example.com" then
        Policy.standard.rules[3]?
      else none := by
  have equal : ∀ key text, Comparison.equals.holds (set.get? key) text =
      decide (set.get? key = some text) := fun _ _ => rfl
  have inside : Comparison.contains.holds (set.get? "azure.groups") "developers" =
      decide (set.HasInside "azure.groups" "developers") := by
    rw [Bool.eq_iff_iff, Comparison.holds_contains_iff_hasInside (by decide), decide_eq_true_eq]
  have atEnd : Comparison.endsWith.holds (set.get? "azure.email") "@example.com" =
      decide (set.HasEnd "azure.email" "@example.com") := by
    rw [Bool.eq_iff_iff, Comparison.holds_endsWith_iff_hasEnd (by decide), decide_eq_true_eq]
  rw [Evaluator.firstMatch?, Evaluator.rules_ofPolicy_of_pairwise (by decide)]
  simp only [Policy.standard, List.find?_cons, List.find?_nil, Rule.matches, Condition.allHold,
    Condition.holds, Request.get?_ofSet, Attribute.key, equal, inside, atEnd, Bool.and_true,
    ← Bool.decide_and, ← decide_not]
  by_cases authenticated : set.get? "azure.authenticated" = some "true"
  · by_cases admin : set.get? "azure.role" = some "admin"
    · simp [authenticated, admin]
    · by_cases developer : set.get? "azure.department" = some "Engineering" ∧
        set.HasInside "azure.groups" "developers"
      · simp [authenticated, admin, developer]
      · by_cases member : set.get? "azure.role" = some "user" ∧
          set.HasEnd "azure.email" "@example.com"
        · simp [authenticated, developer, member]
        · simp [authenticated, admin, developer, member]
  · simp [authenticated]

/-- The evaluator of the standard policy answers as the decision list does. In particular it
authorizes nobody who is not authenticated. -/
theorem explain_standard (set : AttributeSet) :
    let evaluator := Evaluator.ofPolicy .standard
    let answer := evaluator.explain (Request.ofSet set)
    (answer.decision, answer.matchedRule) = standardAnswer set ∧
      evaluator.decide (Request.ofSet set) = answer.decision ∧
      (set.get? "azure.authenticated" ≠ some "true" → answer.decision = .unauthorized) := by
  intro evaluator answer
  have listed : (answer.decision, answer.matchedRule) = standardAnswer set := by
    simp only [answer, Evaluator.explain, evaluator, firstMatch?_standard, standardAnswer]
    split_ifs <;> rfl
  refine ⟨listed, evaluator.decide_eq_decision_explain _, fun unauthenticated => ?_⟩
  have := congrArg Prod.fst listed
  rw [standardAnswer, if_pos unauthenticated] at this
  exact this

end AccessStream

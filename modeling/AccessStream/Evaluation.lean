import AccessStream.Policy.Basic
import AccessStream.Request
import AccessStream.Text.Search

/-!
# Evaluation

The answer of a policy to a request. The rules are asked in the order of descending priority, rules
of equal priority in the order of their declaration, and the first that matches decides; if none
does, the default effect of the policy applies. An attribute that is absent equals no text, and
where a text is looked for inside its value it reads as the empty text.
-/

namespace AccessStream

/-- Whether a value, if there is one, compares with a text. -/
def Comparison.holds (comparison : Comparison) (value : Option String) (text : String) : Bool :=
  match comparison with
  | .equals => value = some text
  | .contains => Text.contains (value.getD "") text
  | .endsWith => Text.endsWith (value.getD "") text

namespace Condition

mutual

/-- Whether a condition holds of a request. -/
def holds (request : Request) : Condition → Bool
  | test comparison a text => comparison.holds (request.get? a) text
  | all conditions => allHold request conditions
  | any conditions => anyHolds request conditions
  | not condition => !holds request condition

/-- Whether all conditions hold of a request. -/
def allHold (request : Request) : List Condition → Bool
  | [] => true
  | condition :: conditions => holds request condition && allHold request conditions

/-- Whether at least one condition holds of a request. -/
def anyHolds (request : Request) : List Condition → Bool
  | [] => false
  | condition :: conditions => holds request condition || anyHolds request conditions

end

end Condition

/-- Whether a rule matches a request: all its conditions hold. -/
def Rule.matches (rule : Rule) (request : Request) : Bool :=
  Condition.allHold request rule.conditions

/-- The answer of a policy to a request, with its ground. -/
inductive Evaluation where
  /-- A rule matched. -/
  | byRule (rule : Rule)
  /-- No rule matched, so that the default effect applies. -/
  | byDefault (effect : Effect)
  deriving DecidableEq, Repr

namespace Evaluation

/-- The effect that applies. -/
def effect : Evaluation → Effect
  | byRule rule => rule.effect
  | byDefault effect => effect

/-- The name of the rule that matched. -/
def matchedRule : Evaluation → Option String
  | byRule rule => some rule.name
  | byDefault _ => none

/-- The ground in words. -/
def reason : Evaluation → String
  | byRule rule => s!"Matched rule '{rule.name}' (priority {rule.priority.toNat})"
  | byDefault effect => s!"No rule matched; applying default effect: {effect.name}"

/-- The decision on the request. -/
def decision (evaluation : Evaluation) : Decision := evaluation.effect.decision

end Evaluation

/-- A policy that is ready for requests: its rules stand in the order in which they are asked. -/
structure Evaluator where
  /-- The rules in the order in which they are asked. -/
  rules : List Rule
  /-- What happens to a request that no rule matches. -/
  defaultEffect : Effect
  deriving DecidableEq, Repr

namespace Evaluator

/-- Whether a rule may be asked before another. -/
def mayPrecede (a b : Rule) : Bool := b.priority ≤ a.priority

/-- The evaluator of a policy. -/
def ofPolicy (policy : Policy) : Evaluator where
  rules := policy.rules.mergeSort mayPrecede
  defaultEffect := policy.defaultEffect

/-- The rule that decides a request, if any rule matches. -/
def firstMatch? (evaluator : Evaluator) (request : Request) : Option Rule :=
  evaluator.rules.find? (·.matches request)

/-- The answer to a request with its ground. -/
def explain (evaluator : Evaluator) (request : Request) : Evaluation :=
  match evaluator.firstMatch? request with
  | some rule => .byRule rule
  | none => .byDefault evaluator.defaultEffect

/-- The decision on a request. -/
def decide (evaluator : Evaluator) (request : Request) : Decision :=
  match evaluator.firstMatch? request with
  | some rule => rule.effect.decision
  | none => evaluator.defaultEffect.decision

end Evaluator

/-- The answer of a policy to a request with its ground. -/
def Policy.evaluate (policy : Policy) (request : Request) : Evaluation :=
  (Evaluator.ofPolicy policy).explain request

end AccessStream

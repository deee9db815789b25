import AccessStream.Policy.Basic
import AccessStream.Text.Blank

/-!
# Well-formed policies

A policy is well formed when its rules have names, no two the same, and when no condition is nested
too deeply or looks for the empty pattern, which every value contains. `Policy.flaw?` finds the
first flaw: that of the first rule that has one, and within the rule its name before its conditions,
which are looked at one after the other.
-/

namespace AccessStream

/-- The greatest depth of a condition in a well-formed policy. -/
def Condition.maxDepth : Nat := 16

namespace Condition

mutual

/-- The depth of a condition: a test, and a join of no conditions, has depth one. -/
def depth : Condition → Nat
  | test .. => 1
  | all conditions => 1 + depthOfList conditions
  | any conditions => 1 + depthOfList conditions
  | not condition => 1 + depth condition

/-- The greatest depth of some conditions. -/
def depthOfList : List Condition → Nat
  | [] => 0
  | condition :: conditions => max (depth condition) (depthOfList conditions)

end

mutual

/-- The first test of a condition, from left to right, that looks for the empty pattern. -/
def emptyPattern? : Condition → Option (Comparison × Attribute)
  | test .equals _ _ => none
  | test comparison a text => if text.isEmpty then some (comparison, a) else none
  | all conditions => emptyPatternOfList? conditions
  | any conditions => emptyPatternOfList? conditions
  | not condition => emptyPattern? condition

/-- The first test of some conditions that looks for the empty pattern. -/
def emptyPatternOfList? : List Condition → Option (Comparison × Attribute)
  | [] => none
  | condition :: conditions => (emptyPattern? condition).or (emptyPatternOfList? conditions)

end

end Condition

namespace Policy

/-- What is wrong with a policy that is not well formed. -/
inductive Flaw where
  /-- The rule at an index, counted from zero, has a name of white space only. -/
  | emptyRuleName (index : Nat)
  /-- Two rules have the same name. -/
  | duplicateRule (name : String)
  /-- A test of a rule looks for the empty pattern. -/
  | emptyPattern (rule : String) (comparison : Comparison) (a : Attribute)
  /-- A condition of a rule is nested too deeply. -/
  | tooDeep (rule : String)
  deriving DecidableEq, Repr

/-- The description of a flaw. -/
def Flaw.message : Flaw → String
  | emptyRuleName index => s!"rule #{index} has an empty name"
  | duplicateRule name => s!"duplicate rule name '{name}'"
  | emptyPattern rule comparison a =>
    s!"rule '{rule}' has an empty {comparison.name} pattern for {a.key}"
  | tooDeep rule => s!"rule '{rule}' nests conditions deeper than {Condition.maxDepth} levels"

end Policy

/-- The flaw of one condition of a rule. -/
def Condition.flaw? (rule : String) (condition : Condition) : Option Policy.Flaw :=
  if Condition.maxDepth < condition.depth then some (.tooDeep rule)
  else condition.emptyPattern?.map fun (comparison, a) => .emptyPattern rule comparison a

/-- The first flaw of a rule after rules with the given names. -/
def Rule.flaw? (earlier : List String) (rule : Rule) : Option Policy.Flaw :=
  if Text.isBlank rule.name then some (.emptyRuleName earlier.length)
  else if rule.name ∈ earlier then some (.duplicateRule rule.name)
  else rule.conditions.findSome? (Condition.flaw? rule.name)

namespace Policy

/-- The first flaw among rules that follow rules with the given names. -/
def flawAfter? (earlier : List String) : List Rule → Option Flaw
  | [] => none
  | rule :: rules => (rule.flaw? earlier).or (flawAfter? (earlier ++ [rule.name]) rules)

/-- The first flaw of a policy; a well-formed policy has none. -/
def flaw? (policy : Policy) : Option Flaw := flawAfter? [] policy.rules

/-- A policy without a flaw. -/
def IsValid (policy : Policy) : Prop := policy.flaw? = none

instance (policy : Policy) : Decidable policy.IsValid :=
  inferInstanceAs (Decidable (policy.flaw? = none))

end Policy

end AccessStream

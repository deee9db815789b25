import AccessStream.Evaluation
import AccessStream.Policy.Format
import AccessStream.Text.Blank

/-!
# Listings of policies

What is printed about a policy: its text in one of the formats, or its rules in the order in which
they are asked, each on a numbered line.
-/

namespace AccessStream

/-- A text with blanks in front of it, up to a width. -/
def Text.padStart (width : Nat) (text : String) : String :=
  String.ofList (List.replicate (width - text.length) ' ' ++ text.toList)

/-- A text with blanks after it, up to a width. -/
def Text.padEnd (width : Nat) (text : String) : String :=
  String.ofList (text.toList ++ List.replicate (width - text.length) ' ')

/-- The line of a rule with its number in the order of the rules. -/
def Rule.line (number : Nat) (rule : Rule) : String :=
  "  " ++ Text.padStart 2 (toString number) ++ ". " ++ Text.padEnd 32 rule.name ++ " " ++
    Text.padEnd 5 rule.effect.name ++ " (priority " ++ toString rule.priority.toNat ++ ")\n"

/-- The lines of some rules, numbered from the given number on. -/
def Rule.lines (number : Nat) : List Rule → String
  | [] => ""
  | rule :: rules => rule.line number ++ Rule.lines (number + 1) rules

/-- The rules of an evaluator in the order in which they are asked, and the default effect. -/
def Evaluator.listing (evaluator : Evaluator) : String :=
  "Evaluation order:\n" ++ Rule.lines 1 evaluator.rules ++
    "  default: " ++ evaluator.defaultEffect.name ++ "\n"

/-- What is printed for a well-formed policy from a file. -/
def Policy.checkedText (path : String) (policy : Policy) : String :=
  "Policy OK: " ++ path ++ "\n\n" ++ (Evaluator.ofPolicy policy).listing

/-- The text of a policy as it is printed: it ends with one line end. -/
def Policy.shownText (format : PolicyFormat) (policy : Policy) : String :=
  Text.trimEnd (policy.format format) ++ "\n"

end AccessStream

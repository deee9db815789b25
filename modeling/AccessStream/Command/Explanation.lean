import AccessStream.Evaluation
import AccessStream.Record

/-!
# Explanations

An explanation says what becomes of one record and why, which the decision stream never does: the
decision, the rule that matched, the ground in words, and the keys of the record that no policy can
ask for.
-/

namespace AccessStream

/-- The keys of an attribute set that belong to no attribute, in ascending order. -/
def AttributeSet.ignoredKeys (set : AttributeSet) : List String :=
  set.keys.filter fun key => (Attribute.ofKey? key).isNone

/-- What becomes of one record. -/
inductive Explanation where
  /-- The record is blank. -/
  | blank
  /-- The record gives an attribute set, and the policy answers its request. -/
  | evaluated (evaluation : Evaluation) (ignoredKeys : List String)
  /-- The record gives no attribute set. -/
  | malformed (error : RecordError)
  deriving DecidableEq, Repr

namespace Explanation

/-- The explanation for a record. -/
def ofRecord (evaluator : Evaluator) (record : Bytes) : Explanation :=
  match Record.decode record with
  | .ok none => blank
  | .ok (some set) => evaluated (evaluator.explain (Request.ofSet set)) set.ignoredKeys
  | .error error => malformed error

/-- The decision, if there is one. -/
def decision? : Explanation → Option Decision
  | blank => none
  | evaluated evaluation _ => some evaluation.decision
  | malformed error => some error.decision

/-- The name of the rule that matched, if one did. -/
def matchedRule? : Explanation → Option String
  | blank => none
  | evaluated evaluation _ => evaluation.matchedRule
  | malformed _ => none

/-- The ground in words, those of the JSON reader included. -/
def reason (details : Bytes → String) : Explanation → String
  | blank => "Blank record; no decision is emitted"
  | evaluated evaluation _ => evaluation.reason
  | malformed error => s!"Malformed record ({error.kind}): {error.message details}"

/-- The keys that no policy can ask for, if the record gives an attribute set. -/
def ignoredKeys? : Explanation → Option (List String)
  | blank => none
  | evaluated _ keys => some keys
  | malformed _ => none

/-- A text as a JSON document; without one it is null. -/
def textToJson : Option String → Json.Value
  | some text => .string text
  | none => .null

/-- An explanation as a JSON document, with its members in the order of their names. -/
def toJson (details : Bytes → String) (explanation : Explanation) : Json.Value :=
  let ignored := match explanation.ignoredKeys? with
    | some keys => [("ignored_keys", Json.Value.array (keys.map .string))]
    | none => []
  .object ([("decision", textToJson (explanation.decision?.map Decision.name))] ++ ignored ++
    [("matched_rule", textToJson explanation.matchedRule?),
      ("reason", .string (explanation.reason details))])

/-- An explanation in lines for a reader. Keys that are ignored are listed only if there are any. -/
def toText (details : Bytes → String) (explanation : Explanation) : String :=
  let decision := (explanation.decision?.map Decision.name).getD "-"
  let rule := explanation.matchedRule?.getD "-"
  let ignored := match explanation.ignoredKeys? with
    | some (key :: keys) => "ignored:  " ++ ", ".intercalate (key :: keys) ++ "\n"
    | _ => ""
  "decision: " ++ decision ++ "\nrule:     " ++ rule ++ "\nreason:   " ++
    explanation.reason details ++ "\n" ++ ignored

/-- What is printed for an explanation, as JSON or as text. -/
def printed (details : Bytes → String) (json : Bool) (explanation : Explanation) : String :=
  if json then (explanation.toJson details).toPretty ++ "\n" else explanation.toText details

end Explanation

end AccessStream

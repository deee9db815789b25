import AccessStream.Proofs.Command.Preparation
import AccessStream.Proofs.Json.Pretty

/-!
# What is printed for a record

An explanation is printed as text or as JSON. Both show a decision, the name of a rule, a reason and
the keys that are ignored (`Shows`), and those that they show are those of the explanation
(`Explanation.shows_printed`). The command prints the explanation of its record under the policy in
force (`Command.output_run_of_explain`).
-/

namespace AccessStream

open Command

section Shows

variable (decision rule : Option String) (reason : String) (ignored : Option (List String))

/-- A printed report shows a decision, the name of a rule, a reason, and the keys that are ignored,
as far as there are any. A text has a line for each, with a dash for a decision or a rule that is
missing, and no line for keys if there are none. A JSON object has a member for each; a decision or
a rule that is missing is null, and there is no member for keys where none are told of. -/
inductive Shows : Bool → String → Prop
  | text (none : ignored.getD [] = []) :
      Shows false ("decision: " ++ decision.getD "-" ++ "\nrule:     " ++ rule.getD "-" ++
        "\nreason:   " ++ reason ++ "\n")
  | textWithKeys {keys : List String} (told : ignored = some keys) (some : keys ≠ []) :
      Shows false ("decision: " ++ decision.getD "-" ++ "\nrule:     " ++ rule.getD "-" ++
        "\nreason:   " ++ reason ++ "\nignored:  " ++ ", ".intercalate keys ++ "\n")
  | json {report : String} {members : List (String × Json.Value)} :
      Json.Value.read report = .ok (.object members) → (members.map (·.1)).Nodup →
        members.lookup "decision" = some (decision.elim .null .string) →
        members.lookup "matched_rule" = some (rule.elim .null .string) →
        members.lookup "reason" = some (.string reason) →
        members.lookup "ignored_keys" = ignored.map (fun keys => .array (keys.map .string)) →
        Shows true report

end Shows

namespace Explanation

variable (details : Bytes → String)

theorem textToJson_eq (text : Option String) : textToJson text = text.elim .null .string := by
  cases text <;> rfl

/-- The members of the JSON document of an explanation. -/
def members (explanation : Explanation) : List (String × Json.Value) :=
  ("decision", textToJson (explanation.decision?.map Decision.name)) ::
    (explanation.ignoredKeys?.map fun keys =>
      ("ignored_keys", Json.Value.array (keys.map .string))).toList ++
    [("matched_rule", textToJson explanation.matchedRule?),
      ("reason", .string (explanation.reason details))]

variable {details} in
theorem toJson_eq (explanation : Explanation) :
    explanation.toJson details = .object (explanation.members details) := by
  rw [toJson, members]
  cases explanation.ignoredKeys? <;> rfl

variable {details} in
/-- A member of the document is a text, or null, or a list of texts. -/
theorem value_of_mem_members {explanation : Explanation} {member : String × Json.Value}
    (inside : member ∈ explanation.members details) :
    (∃ text, member.2 = textToJson text) ∨
      ∃ keys : List String, member.2 = .array (keys.map .string) := by
  rw [members, List.cons_append, List.mem_cons, List.mem_append] at inside
  rcases inside with rfl | ignored | last
  · exact .inl ⟨_, rfl⟩
  · rw [Option.mem_toList, Option.map_eq_some_iff] at ignored
    obtain ⟨keys, -, rfl⟩ := ignored
    exact .inr ⟨keys, rfl⟩
  · simp only [List.mem_cons, List.not_mem_nil, or_false] at last
    rcases last with rfl | rfl
    · exact .inl ⟨_, rfl⟩
    · exact .inl ⟨some (explanation.reason details), rfl⟩

theorem writable_toJson (explanation : Explanation) : (explanation.toJson details).Writable := by
  rw [toJson_eq]
  apply Json.Value.Writable.object
  intro member inside
  rcases value_of_mem_members inside with ⟨_ | text, given⟩ | ⟨keys, given⟩
  · rw [given]
    exact .null
  · rw [given]
    exact .string text
  · rw [given]
    apply Json.Value.Writable.array
    intro item among
    obtain ⟨key, -, rfl⟩ := List.mem_map.1 among
    exact .string key

theorem fits_toJson (explanation : Explanation) :
    (explanation.toJson details).fits Json.Value.maxDepth = true := by
  rw [toJson_eq, Json.Value.maxDepth, Json.Value.fits, List.all_eq_true]
  intro member inside
  rcases value_of_mem_members inside with ⟨_ | text, given⟩ | ⟨keys, given⟩
  · rw [given, textToJson, Json.Value.fits]
  · rw [given, textToJson, Json.Value.fits]
  · rw [given, Json.Value.fits, List.all_eq_true]
    intro item among
    obtain ⟨key, -, rfl⟩ := List.mem_map.1 among
    rw [Json.Value.fits]

theorem nodup_members (explanation : Explanation) :
    ((explanation.members details).map (·.1)).Nodup := by
  rw [members]
  cases explanation.ignoredKeys? with
  | none =>
    have keys : ["decision", "matched_rule", "reason"].Nodup := by decide
    exact keys
  | some _ =>
    have keys : ["decision", "ignored_keys", "matched_rule", "reason"].Nodup := by decide
    exact keys

/-- What is printed as JSON is read as what was meant. -/
theorem read_printed (explanation : Explanation) :
    Json.Value.read (explanation.printed details true) =
      .ok (.object (explanation.members details)) := by
  have written := (explanation.writable_toJson details).documentForm_toPretty.2
  rw [printed, if_pos rfl, Json.Value.read_eq_ok_iff written]
  exact ⟨explanation.fits_toJson details, explanation.toJson_eq.symm⟩

/-- What is printed shows the decision, the rule, the reason and the ignored keys of the
explanation. -/
theorem shows_printed (explanation : Explanation) (json : Bool) :
    Shows (explanation.decision?.map Decision.name) explanation.matchedRule?
      (explanation.reason details) explanation.ignoredKeys? json
      (explanation.printed details json) := by
  cases json with
  | false =>
    rw [printed, if_neg Bool.false_ne_true, toText]
    cases told : explanation.ignoredKeys? with
    | none =>
      simp only [String.append_empty]
      exact .text rfl
    | some keys =>
      cases keys with
      | nil =>
        simp only [String.append_empty]
        exact .text rfl
      | cons key keys =>
        have shown : Shows (explanation.decision?.map Decision.name) explanation.matchedRule?
            (explanation.reason details) (some (key :: keys)) false _ :=
          .textWithKeys rfl (List.cons_ne_nil key keys)
        have split : "\nignored:  " = "\n" ++ "ignored:  " := by decide
        rw [split] at shown
        simpa only [String.append_assoc] using shown
  | true =>
    refine .json (explanation.read_printed details) (explanation.nodup_members details) ?_ ?_ ?_ ?_
    · rw [← textToJson_eq]
      rfl
    · rw [← textToJson_eq, members]
      cases explanation.ignoredKeys? <;> rfl
    · rw [members]
      cases explanation.ignoredKeys? <;> rfl
    · rw [members]
      cases explanation.ignoredKeys? <;> rfl

end Explanation

namespace Command

variable {surroundings : Surroundings} {find : String → Found} {standardInput : Source}
  {invocation : Invocation} {settings : Settings} {filter : Log.Filter} {policy : Policy}

variable (standardInput) in
/-- The command prints the explanation of its record under the policy in force. -/
theorem output_run_of_explain {arguments : List String} {record : String} {flag : Option String}
    {json : Bool} (accepted : Invocation.ofArguments arguments = .done invocation)
    (job : invocation.job = .explain record flag json)
    (begun : Begun surroundings find invocation settings filter)
    (governed : InForce find { policy := flag } settings policy) :
    let explanation := Explanation.ofRecord (.ofPolicy policy) (Utf8.encode record)
    let report := run arguments surroundings find standardInput
    report.exitCode = 0 ∧
      report.output = Utf8.encode (explanation.printed surroundings.build.details json) := by
  have other : invocation.job ≠ .version := by
    rw [job]
    exact nofun
  let printed := fun policy => (Explanation.ofRecord (.ofPolicy policy) (Utf8.encode record)).printed
    surroundings.build.details json
  obtain ⟨entry, -, plan⟩ := planUnder_of_inForce filter governed fun policy => .print (printed policy)
  have planned : Id.run (invocation.job.plan find surroundings.build settings filter) =
      { filter, entries := [entry], task := .print (printed policy) } := by
    rw [job]
    exact plan
  rw [run_of_accepted accepted, plan_of_ne_version other begun, planned]
  exact ⟨rfl, rfl⟩

end Command

end AccessStream

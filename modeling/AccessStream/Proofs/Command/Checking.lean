import AccessStream.Proofs.Command.Preparation
import AccessStream.Proofs.Policy.Json
import AccessStream.Proofs.Policy.Order

/-!
# Checking a policy file

What is printed for a well-formed policy file lists its rules in the order in which they are asked,
each on a line with its number, its name, its effect and its priority (`Command.run_of_loaded`). That
order is a stable sort of the declared rules by descending priority, and nothing else
(`Evaluator.order_ofPolicy`).
-/

namespace AccessStream

/-- The blanks that a text leaves of a width. -/
def Text.blanks (width : Nat) (text : String) : String :=
  String.ofList (List.replicate (width - text.length) ' ')

theorem Text.padStart_eq (width : Nat) (text : String) :
    padStart width text = blanks width text ++ text := by
  rw [padStart, blanks, String.ofList_append, String.ofList_toList]

theorem Text.padEnd_eq (width : Nat) (text : String) :
    padEnd width text = text ++ blanks width text := by
  rw [padEnd, blanks, String.ofList_append, String.ofList_toList]

theorem Effect.name_eq (effect : Effect) :
    effect.name = if effect = .allow then "allow" else "deny" := by
  cases effect <;> rfl

/-- The line of a rule shows its number, its name, its effect and its priority, in columns. -/
theorem Rule.line_eq (number : Nat) (rule : Rule) :
    let effect := if rule.effect = .allow then "allow" else "deny"
    rule.line number =
      "  " ++ Text.blanks 2 (toString number) ++ toString number ++ ". " ++
        rule.name ++ Text.blanks 32 rule.name ++ " " ++ effect ++ Text.blanks 5 effect ++
        " (priority " ++ toString rule.priority.toNat ++ ")\n" := by
  intro effect
  have word : rule.effect.name = effect := rule.effect.name_eq
  simp only [line, Text.padStart_eq, Text.padEnd_eq, word, String.append_assoc]

/-- The lines of some rules are those of each rule with its number. -/
theorem Rule.lines_eq_join (number : Nat) (rules : List Rule) :
    Rule.lines number rules =
      String.join ((rules.zipIdx number).map fun entry => entry.1.line entry.2) := by
  induction rules generalizing number with
  | nil => rfl
  | cons rule rules ih =>
    rw [Rule.lines, ih, List.zipIdx_cons, List.map_cons, String.join_cons]

/-- The file of a text that is read as a policy loads as this policy. -/
theorem Policy.load_of_text {find : String → Found} {path text : String} {format : PolicyFormat}
    {policy : Policy} (named : PolicyFormat.ofPath? path = some format)
    (found : find path = .file (Utf8.encode text)) (parsed : parse format text = .ok policy) :
    Id.run (load find path) = .ok policy := by
  have loaded : Id.run (load find path) = ofFile format (find path) := by
    simp only [load, named]
    rfl
  have decoded : (find path).text? = some text := by
    rw [found]
    exact Utf8.decode?_encode text
  rw [loaded, ofFile, decoded]
  exact parsed

/-- What is written as JSON for a well-formed policy loads as this policy. -/
theorem Policy.load_of_toJsonText {find : String → Found} {path : String} {policy : Policy}
    (named : PolicyFormat.ofPath? path = some .json)
    (found : find path = .file (Utf8.encode policy.toJsonText)) (valid : policy.IsValid) :
    Id.run (load find path) = .ok policy := by
  have written := policy.writable_toJson.documentForm_toPretty.1
  exact load_of_text named found
    (parse_json_of_states written (Document.states_ofJson policy) valid)

namespace Command

variable {surroundings : Surroundings} {find : String → Found} {standardInput : Source}
  {invocation : Invocation} {settings : Settings} {filter : Log.Filter} {policy : Policy}

/-- For a well-formed policy file its rules are printed in the order in which they are asked, with
the numbers from one on. -/
theorem run_of_loaded {arguments : List String} {path : String}
    (accepted : Invocation.ofArguments arguments = .done invocation)
    (job : invocation.job = .checkPolicy path)
    (begun : Begun surroundings find invocation settings filter)
    (loaded : Id.run (Policy.load find path) = .ok policy) :
    let lines := ((Evaluator.ofPolicy policy).rules.zipIdx 1).map fun entry =>
      entry.1.line entry.2
    run arguments surroundings find standardInput =
      { output := Utf8.encode ("Policy OK: " ++ path ++ "\n\n" ++
          ("Evaluation order:\n" ++ String.join lines ++
            "  default: " ++ policy.defaultEffect.name ++ "\n")) } := by
  intro lines
  have other : invocation.job ≠ .version := by
    rw [job]
    exact nofun
  have plan : Id.run (invocation.plan find surroundings) =
      { filter, task := .print (policy.checkedText path) } := by
    rw [plan_of_ne_version other begun, job]
    simp only [Job.plan, Id.run_bind, loaded, Id.run_pure]
  have listed : Rule.lines 1 (Evaluator.ofPolicy policy).rules = String.join lines :=
    Rule.lines_eq_join 1 _
  rw [run_of_accepted accepted, plan, ← listed]
  rfl

end Command

/-- Rules are asked in a stable sort by descending priority: they are the declared rules, none
stands behind one of a lower priority, and at each priority they stand as declared. So declared
orders that differ only between priorities come to the same, and rules that are declared in order are
asked as they stand. What is printed for a policy file lists the rules in this order, with the name,
the effect and the priority of each. -/
theorem Evaluator.order_ofPolicy (policy : Policy) :
    let evaluator := Evaluator.ofPolicy policy
    Rule.Reorders evaluator.rules policy.rules ∧ Rule.Descends evaluator.rules ∧
      (∀ other : Policy, other.defaultEffect = policy.defaultEffect →
        Rule.Reorders other.rules policy.rules → Evaluator.ofPolicy other = evaluator) ∧
      (Rule.Descends policy.rules →
        evaluator = { rules := policy.rules, defaultEffect := policy.defaultEffect }) ∧
      ∀ (arguments : List String) (surroundings : Command.Surroundings) (find : String → Found)
        (standardInput : Source) (invocation : Command.Invocation) (settings : Settings)
        (filter : Log.Filter) (path : String),
        Command.Invocation.ofArguments arguments = .done invocation →
        invocation.job = .checkPolicy path →
        Command.Begun surroundings find invocation settings filter →
        Id.run (Policy.load find path) = .ok policy →
        let word := fun effect : Effect => if effect = .allow then "allow" else "deny"
        let line := fun (number : Nat) (rule : Rule) =>
          "  " ++ Text.blanks 2 (toString number) ++ toString number ++ ". " ++
            rule.name ++ Text.blanks 32 rule.name ++ " " ++
            word rule.effect ++ Text.blanks 5 (word rule.effect) ++
            " (priority " ++ toString rule.priority.toNat ++ ")\n"
        let lines := (evaluator.rules.zipIdx 1).map fun entry => line entry.2 entry.1
        Command.run arguments surroundings find standardInput =
          { output := Utf8.encode ("Policy OK: " ++ path ++ "\n\n" ++
              ("Evaluation order:\n" ++ String.join lines ++
                "  default: " ++ word policy.defaultEffect ++ "\n")) } := by
  intro evaluator
  refine ⟨reorders_rules policy, descends_rules policy, fun other same reorders => ?_, fun h => ?_,
    fun arguments surroundings find standardInput invocation settings filter path accepted job
      begun loaded => ?_⟩
  · exact ofPolicy_eq_of_reorders same reorders
  · exact ofPolicy_of_descends h
  · intro word line lines
    have shown : (evaluator.rules.zipIdx 1).map (fun entry => entry.1.line entry.2) = lines :=
      List.map_congr_left fun entry _ => entry.1.line_eq entry.2
    have default : policy.defaultEffect.name = word policy.defaultEffect :=
      policy.defaultEffect.name_eq
    rw [← shown, ← default]
    exact Command.run_of_loaded accepted job begun loaded

/-- Two rules of one priority, between the least and the greatest. -/
theorem Evaluator.order_ofPolicy_of_ties :
    let low : Rule := { name := "low", effect := .allow }
    let late : Rule := { name := "late", effect := .allow, priority := 7 }
    let later : Rule := { name := "later", effect := .deny, priority := 7 }
    let top : Rule := { name := "top", effect := .deny, priority := 4294967295 }
    let policy : Policy := { rules := [low, late, top, later] }
    let ordered : Policy := { rules := [top, late, later, low] }
    let find : String → Found := fun path =>
      if path = "rules.json" then .file (Utf8.encode policy.toJsonText) else .nothing
    let build : Command.Build := ⟨"x86_64", "linux", fun _ => "", fun _ => ""⟩
    Rule.Reorders ordered.rules policy.rules ∧ Rule.Descends ordered.rules ∧
      Evaluator.ofPolicy policy = { rules := ordered.rules, defaultEffect := .deny } ∧
      Command.run ["policy", "check", "rules.json"] ⟨[], "/work", none, build⟩ find (.ofBytes []) =
        { output := Utf8.encode ("Policy OK: rules.json\n\nEvaluation order:\n" ++
            "   1. top                              deny  (priority 4294967295)\n" ++
            "   2. late                             allow (priority 7)\n" ++
            "   3. later                            deny  (priority 7)\n" ++
            "   4. low                              allow (priority 0)\n" ++
            "  default: deny\n") } := by
  intro low late later top policy ordered find build
  have reorders : Rule.Reorders ordered.rules policy.rules :=
    Rule.reorders_of_mem (by decide) (by decide)
  have descends : Rule.Descends ordered.rules := by
    rw [Rule.Descends]
    decide
  have valid : policy.IsValid := by decide +kernel
  have loaded : Id.run (Policy.load find "rules.json") = .ok policy :=
    Policy.load_of_toJsonText (by decide +kernel) (if_pos rfl) valid
  let surroundings : Command.Surroundings := ⟨[], "/work", none, build⟩
  let invocation : Command.Invocation := { job := .checkPolicy "rules.json" }
  have accepted : Command.Invocation.ofArguments ["policy", "check", "rules.json"] =
      .done invocation := by decide +kernel
  have settings : Id.run (invocation.settings find surroundings) = .ok {} := by decide +kernel
  obtain ⟨-, -, same, -, printed⟩ := order_ofPolicy policy
  obtain ⟨-, -, -, unchanged, -⟩ := order_ofPolicy ordered
  have asked : Evaluator.ofPolicy policy = { rules := ordered.rules, defaultEffect := .deny } :=
    (same ordered rfl reorders).symm.trans (unchanged descends)
  refine ⟨reorders, descends, asked, ?_⟩
  have output := printed _ surroundings find (.ofBytes []) invocation {} _ "rules.json" accepted rfl
    ⟨settings, Command.logFilter_of_default⟩ loaded
  rw [asked] at output
  exact output.trans (by decide +kernel)

end AccessStream

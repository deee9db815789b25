import AccessStream.Proofs.Command.Checking
import AccessStream.Proofs.Command.Printed
import AccessStream.Proofs.Policy.Mentions

/-!
# Keys that an explanation ignores

An explanation lists the keys of a record that belong to no attribute. They are those of which no
policy can ask, so they change nothing in the answer, and what is printed lists all of them and no
others (`explain_of_agree`).
-/

namespace AccessStream

/-- The keys under which records carry attributes. -/
def wireNames : List String :=
  ["azure.authenticated", "azure.role", "azure.department", "azure.groups", "azure.email"]

theorem Attribute.exists_key_eq_iff {key : String} :
    (∃ a : Attribute, a.key = key) ↔ key ∈ wireNames := by
  have keys : wireNames = all.map Attribute.key := rfl
  rw [keys, List.mem_map]
  constructor
  · rintro ⟨a, rfl⟩
    exact ⟨a, a.mem_all, rfl⟩
  · rintro ⟨a, -, rfl⟩
    exact ⟨a, rfl⟩

/-- Some keys are those of a set that belong to no attribute, in ascending order and each once. -/
structure AttributeSet.Ignores (set : AttributeSet) (keys : List String) : Prop where
  ascending : keys.Pairwise (· < ·)
  mem_iff : ∀ key, key ∈ keys ↔ set.contains key = true ∧ key ∉ wireNames

theorem AttributeSet.ignores_ignoredKeys (set : AttributeSet) : set.Ignores set.ignoredKeys := by
  refine ⟨set.keys_pairwise.filter _, fun key => ?_⟩
  rw [mem_ignoredKeys_iff, ← Attribute.exists_key_eq_iff, not_exists]

/-- The answer of a policy depends on nothing but the attributes that it names, and so sets that
differ only in keys of no attribute have the same answer. What is printed for a record that holds a
set shows this answer, and as ignored those keys of the set that belong to no attribute, in ascending
order and each once. -/
theorem explain_of_agree (policy : Policy) :
    let evaluator := Evaluator.ofPolicy policy
    (∀ a b : AttributeSet,
      (∀ attr, policy.Mentions attr → a.get? attr.key = b.get? attr.key) →
      evaluator.explain (Request.ofSet a) = evaluator.explain (Request.ofSet b)) ∧
    (∀ a b : AttributeSet, (∀ key, a.get? key ≠ b.get? key → key ∉ wireNames) →
      evaluator.explain (Request.ofSet a) = evaluator.explain (Request.ofSet b)) ∧
    (∀ set : AttributeSet, set.Ignores set.ignoredKeys) ∧
    ∀ record set json arguments surroundings find standardInput invocation flag settings filter,
      Record.decode (Utf8.encode record) = .ok (some set) →
      Command.Invocation.ofArguments arguments = .done invocation →
      invocation.job = .explain record flag json →
      Command.Begun surroundings find invocation settings filter →
      Command.InForce find { policy := flag } settings policy →
        let answer := evaluator.explain (Request.ofSet set)
        let report := Command.run arguments surroundings find standardInput
        report.exitCode = 0 ∧ ∃ text, report.output = Utf8.encode text ∧
          Shows (some answer.decision.name) answer.matchedRule answer.reason (some set.ignoredKeys)
            json text := by
  intro evaluator
  have depends : ∀ a b : AttributeSet,
      (∀ attr, policy.Mentions attr → a.get? attr.key = b.get? attr.key) →
      evaluator.explain (Request.ofSet a) = evaluator.explain (Request.ofSet b) := by
    intro a b agree
    refine Evaluator.explain_congr fun attr named => ?_
    rw [Request.get?_ofSet, Request.get?_ofSet]
    exact agree attr named
  refine ⟨depends, ?_, AttributeSet.ignores_ignoredKeys, ?_⟩
  · intro a b differ
    refine depends a b fun attr _ => ?_
    by_contra other
    exact differ attr.key other (Attribute.exists_key_eq_iff.1 ⟨attr, rfl⟩)
  · intro record set json arguments surroundings find standardInput invocation flag settings filter
      decoded accepted job begun governed answer report
    have evaluated : Explanation.ofRecord evaluator (Utf8.encode record) =
        .evaluated answer set.ignoredKeys := by
      rw [Explanation.ofRecord, decoded]
    obtain ⟨code, output⟩ :=
      Command.output_run_of_explain standardInput accepted job begun governed
    rw [evaluated] at output
    have shown := (Explanation.evaluated answer set.ignoredKeys).shows_printed
      surroundings.build.details json
    exact ⟨code, _, output, shown⟩

/-- A policy that names the address alone, inside a negation, does not see that the role and a key
of no attribute have changed; the key is printed as ignored. -/
theorem explain_of_agree_on_email :
    let policy : Policy :=
      { rules := [{ name := "outside", effect := .deny
                    conditions := [.not (.any [.test .endsWith .email "@example.com"])] }]
        defaultEffect := .allow }
    let a := AttributeSet.ofList [("azure.role", "admin"), ("azure.email", "x"), ("zone", "b")]
    let b := AttributeSet.ofList [("azure.email", "x"), ("azure.role", "user")]
    let find : String → Found := fun path =>
      if path = "rules.json" then .file (Utf8.encode policy.toJsonText) else .nothing
    let build : Command.Build := ⟨"x86_64", "linux", fun _ => "", fun _ => ""⟩
    let record := "\x7b\"azure.role\": \"admin\", \"zone\": \"b\", \"azure.email\": \"x\"\x7d"
    let report := Command.run ["explain", record, "--policy", "rules.json"]
      ⟨[], "/work", none, build⟩ find (.ofBytes [])
    (∀ attr, policy.Mentions attr → a.get? attr.key = b.get? attr.key) ∧
      a.get? "azure.role" ≠ b.get? "azure.role" ∧ a.Ignores ["zone"] ∧
      ((Evaluator.ofPolicy policy).explain (Request.ofSet a)).matchedRule = some "outside" ∧
      ((Evaluator.ofPolicy policy).explain (Request.ofSet b)).matchedRule = some "outside" ∧
      report.exitCode = 0 ∧ report.output = Utf8.encode ("decision: unauthorized\n" ++
        "rule:     outside\nreason:   Matched rule 'outside' (priority 0)\nignored:  zone\n") := by
  intro policy a b find build record report
  have agree : ∀ attr, policy.Mentions attr → a.get? attr.key = b.get? attr.key := by
    rintro attr ⟨rule, declared, condition, listed, named⟩
    obtain rfl := List.mem_singleton.1 declared
    obtain rfl := List.mem_singleton.1 listed
    cases named with
    | not named =>
      cases named with
      | any joined named =>
        obtain rfl := List.mem_singleton.1 joined
        cases named
        decide +kernel
  obtain ⟨depends, -, ignores, prints⟩ := explain_of_agree policy
  have explained : (Evaluator.ofPolicy policy).explain (Request.ofSet a) =
      .byRule { name := "outside", effect := .deny
                conditions := [.not (.any [.test .endsWith .email "@example.com"])] } := by
    decide +kernel
  have unread : a.ignoredKeys = ["zone"] := by decide +kernel
  let surroundings : Command.Surroundings := ⟨[], "/work", none, build⟩
  let invocation : Command.Invocation := { job := .explain record (some "rules.json") false }
  have accepted : Command.Invocation.ofArguments ["explain", record, "--policy", "rules.json"] =
      .done invocation := by decide +kernel
  have settings : Id.run (invocation.settings find surroundings) = .ok {} := by decide +kernel
  have decoded : Record.decode (Utf8.encode record) = .ok (some a) := by decide +kernel
  have valid : policy.IsValid := by decide +kernel
  have loaded : Id.run (Policy.load find "rules.json") = .ok policy :=
    Policy.load_of_toJsonText (by decide +kernel) (if_pos rfl) valid
  obtain ⟨code, text, output, shown⟩ := prints record a false _ surroundings find (.ofBytes [])
    invocation (some "rules.json") {} _ decoded accepted rfl
    ⟨settings, Command.logFilter_of_default⟩ (.file rfl loaded)
  have literal : text = "decision: unauthorized\n" ++
      "rule:     outside\nreason:   Matched rule 'outside' (priority 0)\nignored:  zone\n" := by
    rw [explained, unread] at shown
    cases shown with
    | text none => cases none
    | textWithKeys told _ =>
      cases told
      decide +kernel
  have matched : ((Evaluator.ofPolicy policy).explain (Request.ofSet a)).matchedRule =
      some "outside" := by rw [explained]; rfl
  -- the report is rewritten as a whole, since comparing its parts would run the program
  have same : report = Command.run _ surroundings find (.ofBytes []) := rfl
  refine ⟨agree, by decide +kernel, unread ▸ ignores a, matched, ?_, ?_, ?_⟩
  · rw [← depends a b agree]
    exact matched
  · rw [same]
    exact code
  · rw [same, output, literal]

end AccessStream

import AccessStream.Proofs.Command.Printed
import AccessStream.Proofs.Policy.Meaning
import AccessStream.Proofs.Stream.Events
import AccessStream.Proofs.Text.Front

/-!
# Explanations tell what the stream does

An explanation is made from a record by itself, the stream takes its records from pieces of input.
What is printed for an explanation shows its decision, its rule and its reason (`Shows`), and these
agree with what a run on the record alone comes to, by its line, its counts and its log
(`Explanation.AgreesWith`). All of it holds whatever the words of the JSON reader are, which are a
parameter of reasons and of the log.
-/

namespace AccessStream

open Command

/-! ## Kinds of malformed records -/

/-- A reason says that the record is malformed, and of which kind. -/
def NamesKind (reason kind : String) : Prop :=
  ∃ detail, reason = "Malformed record (" ++ kind ++ "): " ++ detail

/-- A run logs the rejection of a record of a kind. -/
def LogsKind (details : Bytes → String) (run : StreamRun) (kind : String) : Prop :=
  ∃ entry ∈ streamEntries details run, entry.message = "Rejected malformed record" ∧
    ("kind", "\"" ++ kind ++ "\"") ∈ entry.fields

variable {details : Bytes → String}

theorem toList_namesKind (kind detail : String) :
    ("Malformed record (" ++ kind ++ "): " ++ detail).toList =
      "Malformed record (".toList ++ (kind.toList ++ ')' :: ':' :: ' ' :: detail.toList) := by
  simp only [String.toList_append, List.append_assoc]
  rfl

/-- A reason names one kind only, as far as kinds have no parenthesis. -/
theorem kind_unique {kind kind' reason : String} (plain : ')' ∉ kind.toList)
    (plain' : ')' ∉ kind'.toList) (named : NamesKind reason kind) (named' : NamesKind reason kind') :
    kind = kind' := by
  obtain ⟨detail, rfl⟩ := named
  obtain ⟨detail', same⟩ := named'
  have whole := congrArg String.toList same
  simp only [toList_namesKind] at whole
  have rest := List.append_cancel_left whole
  -- The kind is what stands before the first parenthesis that closes.
  have front : ∀ {k : String}, ')' ∉ k.toList → ∀ more,
      (k.toList ++ ')' :: more).takeWhile (· != ')') = k.toList := by
    intro k plain more
    refine takeWhile_front ?_ (stops_cons (by decide) more)
    intro c inside
    rw [bne_iff_ne]
    rintro rfl
    exact plain inside
  have kinds := congrArg (List.takeWhile (· != ')')) rest
  rw [front plain, front plain'] at kinds
  exact String.toList_inj.1 kinds

theorem RecordError.plain_kind (error : RecordError) : ')' ∉ error.kind.toList := by
  match error with
  | .json .malformed _ =>
    have plain : ')' ∉ "syntax".toList := by decide
    exact plain
  | .json .mismatch _ =>
    have plain : ')' ∉ "type".toList := by decide
    exact plain
  | .json .truncated _ =>
    have plain : ')' ∉ "eof".toList := by decide
    exact plain
  | .oversized _ =>
    have plain : ')' ∉ "oversized".toList := by decide
    exact plain

namespace Explanation

theorem namesKind_malformed_iff {error : RecordError} {kind : String} (plain : ')' ∉ kind.toList) :
    NamesKind ((malformed error).reason details) kind ↔ error.kind = kind := by
  have own : NamesKind ((malformed error).reason details) error.kind := ⟨error.message details, rfl⟩
  constructor
  · exact kind_unique error.plain_kind plain own
  · rintro rfl
    exact own

/-- A reason begins with words that are known beforehand. -/
theorem exists_front (explanation : Explanation) :
    (∃ error, explanation = malformed error) ∨
      ∃ front ∈ ["Blank record", "Matched rule '", "No rule matched"], ∃ more,
        explanation.reason details = front ++ more := by
  match explanation with
  | .malformed error => exact .inl ⟨error, rfl⟩
  | .blank =>
    have split : "Blank record; no decision is emitted" =
        "Blank record" ++ "; no decision is emitted" := by decide
    exact .inr ⟨"Blank record", by decide, "; no decision is emitted", split⟩
  | .evaluated (.byRule rule) ignoredKeys =>
    refine .inr ⟨"Matched rule '", by decide,
      rule.name ++ ("' (priority " ++ (toString rule.priority.toNat ++ ")")), ?_⟩
    have written : (evaluated (.byRule rule) ignoredKeys).reason details = "Matched rule '" ++
        rule.name ++ "' (priority " ++ toString rule.priority.toNat ++ ")" := rfl
    rw [written]
    simp only [String.append_assoc]
  | .evaluated (.byDefault effect) _ =>
    refine .inr ⟨"No rule matched", by decide, "; applying default effect: " ++ effect.name, ?_⟩
    rw [← String.append_assoc]
    rfl

/-- Only the reason for a malformed record names a kind: its third letter tells it from all
others. -/
theorem eq_malformed_of_namesKind {explanation : Explanation} {kind : String}
    (named : NamesKind (explanation.reason details) kind) : ∃ error, explanation = malformed error := by
  obtain ⟨detail, same⟩ := named
  rcases explanation.exists_front with malformed | ⟨front, known, more, begins⟩
  · exact malformed
  · have whole := congrArg String.toList (begins.symm.trans same)
    have left : (front ++ more).toList = front.toList ++ more.toList := String.toList_append
    rw [left, toList_namesKind] at whole
    have third := congrArg (·[2]?) whole
    have fronts : ∀ front ∈ ["Blank record", "Matched rule '", "No rule matched"],
        2 < front.toList.length ∧ front.toList[2]? ≠ some 'l' := by decide
    obtain ⟨long, differs⟩ := fronts front known
    simp only [List.getElem?_append_left long] at third
    exact absurd third differs

end Explanation

theorem logsKind_iff {run : StreamRun} {kind : String} :
    LogsKind details run kind ↔
      ∃ record error, .rejected record error ∈ run.events.toList ∧ error.kind = kind := by
  constructor
  · rintro ⟨entry, among, message, field⟩
    rw [streamEntries, List.mem_append] at among
    rcases among with inside | summary
    · obtain ⟨event, reported, rfl⟩ := List.mem_map.1 inside
      cases event with
      | decided record decision =>
        have other : "Decided record" = "Rejected malformed record" := message
        exact absurd other (by decide)
      | rejected record error =>
        refine ⟨record, error, reported, ?_⟩
        have quoted : "\"" ++ kind ++ "\"" = "\"" ++ error.kind ++ "\"" := by
          simpa [Log.Entry.ofEvent] using field
        have inner := congrArg String.toList quoted
        simp only [String.toList_append, List.append_cancel_left_eq, List.append_cancel_right_eq]
          at inner
        exact (String.toList_inj.1 inner).symm
      | ended stats =>
        have other : "Input stream ended" = "Rejected malformed record" := message
        exact absurd other (by decide)
    · cases ended : run.result with
      | ok stats =>
        rw [ended] at summary
        obtain rfl := List.mem_singleton.1 summary
        have other : "Decision stream complete" = "Rejected malformed record" := message
        exact absurd other (by decide)
      | error failure =>
        rw [ended] at summary
        cases summary
  · rintro ⟨record, error, reported, rfl⟩
    refine ⟨.ofEvent details (.rejected record error), ?_, rfl, .tail _ (.head _)⟩
    rw [streamEntries]
    exact List.mem_append_left _ (List.mem_map.2 ⟨_, reported, rfl⟩)

/-! ## A record by itself and in a stream -/

section Alone

variable {outcome : RecordOutcome}

theorem StreamStats.blank_add_iff : (StreamStats.add {} outcome).blank = 1 ↔ outcome.line? = none := by
  match outcome with
  | .ok none => exact iff_of_true rfl rfl
  | .ok (some .authorized) => exact iff_of_false nofun nofun
  | .ok (some .unauthorized) => exact iff_of_false nofun nofun
  | .error error => exact iff_of_false nofun nofun

theorem StreamStats.malformed_add_iff :
    (StreamStats.add {} outcome).malformed = 1 ↔ ∃ error, outcome = .error error := by
  match outcome with
  | .ok none => exact iff_of_false nofun nofun
  | .ok (some .authorized) => exact iff_of_false nofun nofun
  | .ok (some .unauthorized) => exact iff_of_false nofun nofun
  | .error error => exact iff_of_true rfl ⟨error, rfl⟩

theorem rejected_mem_events_iff {record : Nat} {error : RecordError} {stats : StreamStats} :
    .rejected record error ∈ (StreamEvent.ofOutcome? 1 outcome).toList ++ [.ended stats] ↔
      record = 1 ∧ outcome = .error error := by
  match outcome with
  | .ok none => simp [StreamEvent.ofOutcome?]
  | .ok (some decision) => simp [StreamEvent.ofOutcome?]
  | .error other => simp [StreamEvent.ofOutcome?, eq_comm]

end Alone

namespace Explanation

theorem decision?_ofRecord (pipeline : Pipeline) (record : Bytes) :
    (ofRecord pipeline.evaluator record).decision? = (pipeline.decideRecord record).line? := by
  rw [ofRecord, Pipeline.decideRecord]
  rcases Record.decode record with error | _ | set
  · rfl
  · rfl
  · have same := pipeline.evaluator.decide_eq_decision_explain (Request.ofSet set)
    exact congrArg some same.symm

theorem ofRecord_eq_malformed_iff (pipeline : Pipeline) {record : Bytes} {error : RecordError} :
    ofRecord pipeline.evaluator record = malformed error ↔
      pipeline.decideRecord record = .error error := by
  rw [ofRecord, Pipeline.decideRecord]
  rcases Record.decode record with other | _ | set <;> simp

/-- A rule that is named is one of the policy, matches the request of the record, and has the effect
that is decided. -/
theorem exists_rule_of_matchedRule? {policy : Policy} {record : Bytes} {name : String}
    (named : (ofRecord (.ofPolicy policy) record).matchedRule? = some name) :
    ∃ rule ∈ policy.rules, rule.name = name ∧
      (ofRecord (.ofPolicy policy) record).decision? = some rule.effect.decision ∧
      ∃ set, Record.decode record = .ok (some set) ∧ (Request.ofSet set).Matches rule := by
  match decoded : Record.decode record with
  | .error error =>
    rw [ofRecord, decoded] at named
    cases named
  | .ok none =>
    rw [ofRecord, decoded] at named
    cases named
  | .ok (some set) =>
    rw [ofRecord, decoded] at named ⊢
    cases found : (Evaluator.ofPolicy policy).firstMatch? (Request.ofSet set) with
    | none =>
      simp only [Evaluator.explain, found] at named
      cases named
    | some rule =>
      simp only [Evaluator.explain, found] at named ⊢
      cases named
      obtain ⟨index, decides⟩ := Evaluator.decides_of_firstMatch? found
      have declared : rule ∈ policy.rules := List.mem_of_getElem? decides.declared
      exact ⟨rule, declared, rfl, rfl, set, rfl, decides.matching⟩

/-- An explanation of a record agrees with a run of a pipeline on the record alone that ended with
some counts. -/
structure AgreesWith (details : Bytes → String) (explanation : Explanation) (policy : Policy)
    (record : Bytes) (run : StreamRun) (stats : StreamStats) : Prop where
  /-- There is no decision exactly if the run writes nothing and counts the record as blank. -/
  skipped : explanation.decision? = none ↔ run.sink.taken.toList = [] ∧ stats.blank = 1
  /-- Else the decision is the only line of the run. -/
  line : ∀ decision, explanation.decision? = some decision →
    run.sink.taken.toList = Utf8.encode decision.name ++ [lineFeed]
  /-- The reason says that the record is malformed exactly if the run counts it so. -/
  malformed : (∃ kind, NamesKind (explanation.reason details) kind) ↔ stats.malformed = 1
  /-- The kind of a malformed record is the one that the run logs. -/
  kind : ∀ kind, ')' ∉ kind.toList →
    (NamesKind (explanation.reason details) kind ↔ LogsKind details run kind)
  /-- A rule that is named is one of the policy, all its conditions are met by the request of the
  record, and its effect is the decision. -/
  rule : ∀ name, explanation.matchedRule? = some name → ∃ rule ∈ policy.rules, rule.name = name ∧
    explanation.decision? = some rule.effect.decision ∧
    ∃ set, Record.decode record = .ok (some set) ∧ (Request.ofSet set).Matches rule

theorem agreesWith_of_outcome {policy : Policy} {options : StreamOptions} {record : Bytes}
    {run : StreamRun} :
    let pipeline : Pipeline := { evaluator := .ofPolicy policy, options }
    let outcome := pipeline.decideRecord record
    run.sink.taken.toList = outcome.line?.elim [] Decision.line →
    run.events.toList =
      (StreamEvent.ofOutcome? 1 outcome).toList ++ [.ended (StreamStats.add {} outcome)] →
    (ofRecord (.ofPolicy policy) record).AgreesWith details policy record run
      (StreamStats.add {} outcome) := by
  intro pipeline outcome taken events
  have decided : (ofRecord (.ofPolicy policy) record).decision? = outcome.line? :=
    decision?_ofRecord pipeline record
  have rejected : ∀ error, ofRecord (.ofPolicy policy) record = .malformed error ↔
      outcome = .error error := fun error => ofRecord_eq_malformed_iff pipeline
  refine ⟨?_, ?_, ?_, ?_, fun name => exists_rule_of_matchedRule?⟩
  · rw [decided, StreamStats.blank_add_iff, taken]
    constructor
    · intro none
      rw [none]
      exact ⟨rfl, rfl⟩
    · exact And.right
  · intro decision some
    rw [decided] at some
    rw [taken, some]
    rfl
  · rw [StreamStats.malformed_add_iff]
    constructor
    · rintro ⟨kind, named⟩
      obtain ⟨error, given⟩ := eq_malformed_of_namesKind named
      exact ⟨error, (rejected error).1 given⟩
    · rintro ⟨error, failed⟩
      rw [(rejected error).2 failed]
      exact ⟨error.kind, (namesKind_malformed_iff error.plain_kind).2 rfl⟩
  · intro kind plain
    simp only [logsKind_iff, events, rejected_mem_events_iff]
    constructor
    · intro named
      obtain ⟨error, given⟩ := eq_malformed_of_namesKind named
      rw [given, namesKind_malformed_iff plain] at named
      exact ⟨1, error, ⟨rfl, (rejected error).1 given⟩, named⟩
    · rintro ⟨_, error, ⟨-, failed⟩, rfl⟩
      rw [(rejected error).2 failed]
      exact (namesKind_malformed_iff plain).2 rfl

end Explanation

/-! ## The command -/

namespace Command

variable {surroundings : Surroundings} {find : String → Found} {standardInput : Source}
  {invocation : Invocation} {settings : Settings} {filter : Log.Filter} {policy : Policy}

/-- Explaining a record agrees with deciding it in a stream, whatever the policy, the flushing and
the pieces in which the record arrives. What is printed, as text or as JSON, shows the decision, the
rule and the reason of the explanation, which agree with a run on the record alone. -/
theorem run_explain (policy : Policy) (options : StreamOptions) (details : Bytes → String)
    {record : String} {reads : List Read} (nonempty : record ≠ "") (oneLine : '\n' ∉ record.toList)
    (fits : (Utf8.encode record).length ≤ options.maxRecordBytes)
    (alone : reads.flatMap Read.toBytes = Utf8.encode record ∨
      reads.flatMap Read.toBytes = Utf8.encode record ++ [lineFeed]) :
    let pipeline : Pipeline := { evaluator := .ofPolicy policy, options }
    let outcome := pipeline.run { reads, fails := false } {}
    let explanation := Explanation.ofRecord (.ofPolicy policy) (Utf8.encode record)
    (∃ stats, outcome.result = .ok stats ∧
      explanation.AgreesWith details policy (Utf8.encode record) outcome stats) ∧
    ∀ json arguments surroundings find standardInput invocation flag settings filter,
      Invocation.ofArguments arguments = .done invocation →
      invocation.job = .explain record flag json →
      Begun surroundings find invocation settings filter →
      InForce find { policy := flag } settings policy →
      surroundings.build.details = details →
        let report := run arguments surroundings find standardInput
        report.exitCode = 0 ∧ ∃ text, report.output = Utf8.encode text ∧
          Shows (explanation.decision?.map Decision.name) explanation.matchedRule?
            (explanation.reason details) explanation.ignoredKeys? json text := by
  intro pipeline outcome explanation
  have noFeed : lineFeed ∉ Utf8.encode record := by rwa [lineFeed_mem_encode_iff]
  have bytes : Utf8.encode record ≠ [] := by
    rwa [Ne, Utf8.encode_eq_nil_iff]
  obtain ⟨result, taken, events⟩ := pipeline.run_alone bytes noFeed fits alone
  refine ⟨⟨_, result, Explanation.agreesWith_of_outcome taken events⟩, ?_⟩
  rintro json arguments surroundings find standardInput invocation flag settings filter accepted job
    begun governed rfl
  obtain ⟨code, output⟩ := output_run_of_explain standardInput accepted job begun governed
  exact ⟨code, _, output, explanation.shows_printed surroundings.build.details json⟩

/-- A record that is not JSON: the stream refuses it by a line and logs the kind of the fault, and
the command prints the explanation that says so. -/
theorem run_explain_of_bad_syntax :
    let details : Bytes → String := fun _ => "expected value at line 1 column 1"
    let build : Build := ⟨"x86_64", "linux", fun _ => "", details⟩
    let arguments := ["explain", "role=admin", "--json"]
    let report := run arguments ⟨[], "/work", none, build⟩ (fun _ => .nothing) (.ofBytes [])
    let pipeline : Pipeline := { evaluator := .ofPolicy .standard }
    let outcome := pipeline.run { reads := [.bytes 0x72 (Utf8.encode "ole=admin\n")] } {}
    let reason := "Malformed record (syntax): invalid request record: " ++
      "expected value at line 1 column 1"
    let text := "\x7b\n  \"decision\": \"unauthorized\",\n  \"matched_rule\": null,\n  \"reason\": \"" ++
      reason ++ "\"\n\x7d\n"
    report.exitCode = 0 ∧ report.output = Utf8.encode text ∧
      Shows (some "unauthorized") none reason none true text ∧ LogsKind details outcome "syntax" ∧
      outcome.sink.taken.toList = Utf8.encode "unauthorized\n" := by
  intro details build arguments report pipeline outcome reason text
  let surroundings : Surroundings := ⟨[], "/work", none, build⟩
  let find : String → Found := fun _ => .nothing
  let invocation : Invocation := { job := .explain "role=admin" none true }
  let explanation : Explanation := .malformed (.json .malformed (Utf8.encode "role=admin"))
  have accepted : Invocation.ofArguments arguments = .done invocation := by decide +kernel
  have loaded : Id.run (invocation.settings find surroundings) = .ok {} := by decide +kernel
  have malformed : .ofRecord (.ofPolicy .standard) (Utf8.encode "role=admin") = explanation := by
    decide +kernel
  have nonempty : "role=admin" ≠ "" := by decide
  have fits : (Utf8.encode "role=admin").length ≤ Nat.pow 2 20 := by decide +kernel
  have ended : [Read.bytes 0x72 (Utf8.encode "ole=admin\n")].flatMap Read.toBytes =
      Utf8.encode "role=admin" ++ [lineFeed] := by decide +kernel
  obtain ⟨⟨stats, -, agrees⟩, prints⟩ :=
    run_explain .standard {} details nonempty (by decide) fits (.inr ended)
  rw [malformed] at agrees prints
  obtain ⟨code, printed, output, shown⟩ := prints true arguments surroundings find (.ofBytes [])
    invocation none {} _ accepted rfl ⟨loaded, logFilter_of_default⟩ (.standard rfl) rfl
  have literal : report.output = Utf8.encode text := by decide +kernel
  obtain rfl := Utf8.encode_inj (output.symm.trans literal)
  have named : NamesKind (explanation.reason details) "syntax" := ⟨_, rfl⟩
  have logged := (agrees.kind "syntax" (by decide)).1 named
  have line := agrees.line .unauthorized rfl
  exact ⟨code, output, shown, logged, line⟩

end Command

end AccessStream

import AccessStream.Proofs.Command.Preparation
import AccessStream.Proofs.Policy.Order
import AccessStream.Proofs.Stream.Rejections

/-!
# What is logged about a stream

Of the records of a stream exactly the malformed ones are warned of, each with its number and the
kind of its fault, and the last entry sums the stream up (`Command.log_of_eval`).
-/

namespace AccessStream

namespace Pipeline

variable {pipeline : Pipeline} {source : Source} {sink : Sink} {stats : StreamStats}

variable (details : Bytes → String) in
/-- A run that ends well has as many warnings as it counts malformed records. -/
theorem length_warnings_of_ended (ended : (pipeline.run source sink).result = .ok stats) :
    (warnings (Command.streamEntries details (pipeline.run source sink))).length =
      stats.malformed := by
  rw [warnings_of_ended pipeline details ended, List.length_map, length_rejectionsFrom,
    ← (pipeline.run_of_ended ended).1]

theorem exists_stats_of_isSound (flows : source.fails = false) (sound : sink.IsSound) :
    ∃ stats, (pipeline.run source sink).result = .ok stats := by
  have result := (pipeline.run_of_isSound source sound).2
  rw [flows, if_neg Bool.false_ne_true] at result
  exact ⟨_, result⟩

end Pipeline

namespace Command

variable {surroundings : Surroundings} {find : String → Found} {standardInput source : Source}
  {invocation : Invocation} {request : StreamRequest} {settings : Settings} {filter : Log.Filter}
  {policy : Policy}

/-- If nothing fails before the first record, the log is what the filter lets through of the entry
about the policy and those of the run. -/
theorem log_run_of_opened {arguments : List String}
    (accepted : Invocation.ofArguments arguments = .done invocation)
    (job : invocation.job = .eval request)
    (begun : Begun surroundings find invocation settings filter)
    (governed : InForce find request settings policy) (positive : request.limit settings ≠ 0)
    (opened : Opened find standardInput request source) :
    ∃ entry, IsAboutPolicy entry ∧
      (run arguments surroundings find standardInput).log = filter.select
        (entry :: streamEntries surroundings.build.details
          ((request.pipeline settings policy).run source {})) := by
  obtain ⟨entry, about, plan⟩ := plan_of_inForce job begun governed
  refine ⟨entry, about, ?_⟩
  rw [run_of_accepted accepted, plan, task_of_ne_zero positive]
  simp only [Plan.report, inputSource_of_opened opened]
  cases ((request.pipeline settings policy).run source {}).result <;> rfl

/-- Whether an entry about a policy is a warning: it is not. -/
theorem warnings_cons_of_about {entry : Log.Entry} (about : IsAboutPolicy entry)
    (entries : List Log.Entry) : warnings (entry :: entries) = warnings entries := by
  rcases about with rfl | ⟨path, policy, rfl⟩ <;> rfl

/-- The filter that lets the warning of a malformed record through lets all of them through. -/
theorem select_warnings {details : Bytes → String} {rejections : List (Nat × RecordError)}
    (allowed : filter.allows .warn "attrgate_abac::pipeline"
      ["message", "record", "kind", "error"] = true) :
    filter.select (rejections.map (warningOf details)) = rejections.map (warningOf details) := by
  refine List.filter_eq_self.2 fun entry among => ?_
  obtain ⟨rejection, -, rfl⟩ := List.mem_map.1 among
  exact allowed

theorem warnings_select (filter : Log.Filter) (entries : List Log.Entry) :
    warnings (filter.select entries) = filter.select (warnings entries) :=
  List.filter_comm _ _ _

theorem getLast?_select {entry : Log.Entry} {entries : List Log.Entry}
    (last : entries.getLast? = some entry)
    (allowed : filter.allows entry.level entry.target entry.fieldNames = true) :
    (filter.select entries).getLast? = some entry := by
  obtain ⟨before, rfl⟩ := List.getLast?_eq_some_iff.1 last
  rw [Log.Filter.select, List.filter_append, List.filter_singleton, allowed]
  exact List.getLast?_concat

/-! ## What the log accounts for -/

/-- The refusals among some records under a limit, blank records counted. -/
structure Refusals (limit : Nat) (input : List Bytes) (refused : List (Nat × RecordError)) :
    Prop where
  /-- They stand in the order of the records, and none has two. -/
  ordered : refused.Pairwise fun first second => first.1 < second.1
  /-- Each is that of the record with its number. -/
  each : ∀ number error, (number, error) ∈ refused ↔ ∃ index record, number = 1 + index ∧
    input[index]? = some record ∧ Record.rejection? limit record = some error

/-- What a pipeline refuses records for. -/
structure RefusesFor (pipeline : Pipeline) : Prop where
  /-- The records that are refused are the malformed ones. -/
  malformed : ∀ record,
    (∃ error, Record.rejection? pipeline.options.maxRecordBytes record = some error) ↔
      pipeline.verdict record = .malformed
  /-- They are oversized exactly if they are longer than the limit. -/
  oversized : ∀ record error,
    Record.rejection? pipeline.options.maxRecordBytes record = some error →
      (error.kind = "oversized" ↔ pipeline.options.maxRecordBytes < record.length)
  /-- Of the others it is the fault that decoding finds. -/
  decoded : ∀ record error,
    Record.rejection? pipeline.options.maxRecordBytes record = some error →
      record.length ≤ pipeline.options.maxRecordBytes → Record.decode record = .error error

/-- The entries of a run that ended with some counts warn of the refusals and of nothing else. -/
structure WarnsOf (details : Bytes → String) (refused : List (Nat × RecordError))
    (stats : StreamStats) (entries : List Log.Entry) : Prop where
  /-- There is one warning for each, in their order, with the number of the record and the kind of
  its fault. -/
  warned : warnings entries = refused.map fun rejection =>
    { level := .warn, target := "attrgate_abac::pipeline", message := "Rejected malformed record"
      fields := [("record", toString rejection.1), ("kind", "\"" ++ rejection.2.kind ++ "\""),
        ("error", rejection.2.message details)] }
  /-- There are as many as records that are counted as malformed. -/
  counted : (warnings entries).length = stats.malformed

/-- The log of the command, of the entries of a run that ended with some counts. -/
structure LogsRun (filter : Log.Filter) (entries : List Log.Entry) (stats : StreamStats)
    (log : List Log.Entry) : Prop where
  /-- It is what the filter lets through of them, and of an entry about the policy before them. -/
  filtered : ∃ entry, IsAboutPolicy entry ∧ log = filter.select (entry :: entries)
  /-- A filter that lets a warning of a record through lets all of them through, and no other. -/
  warned : filter.allows .warn "attrgate_abac::pipeline"
      ["message", "record", "kind", "error"] = true → warnings log = warnings entries
  /-- The last entry, if it is let through, sums the stream up by its five counts. -/
  summary : filter.allows .info "attrgate::commands::eval"
      ["message", "records", "blank", "malformed", "authorized", "unauthorized"] = true →
    log.getLast? = some
      { level := .info, target := "attrgate::commands::eval", message := "Decision stream complete"
        fields := [("records", toString stats.records), ("blank", toString stats.blank),
          ("malformed", toString stats.malformed), ("authorized", toString stats.authorized),
          ("unauthorized", toString stats.unauthorized)] }

theorem refusals_rejectionsFrom (limit : Nat) (input : List Bytes) :
    Refusals limit input (rejectionsFrom limit 1 input) :=
  ⟨pairwise_rejectionsFrom, fun _ _ => mem_rejectionsFrom_iff⟩

theorem refusesFor (pipeline : Pipeline) : RefusesFor pipeline where
  malformed _ := pipeline.verdict_eq_malformed_iff.symm
  oversized _ _ refuses := Record.kind_eq_oversized_iff refuses
  decoded _ _ refuses fits := Record.decode_of_rejection? fits refuses

section Ended

variable {pipeline : Pipeline} {sink : Sink} {stats : StreamStats}

theorem warnsOf_of_ended (details : Bytes → String)
    (ended : (pipeline.run source sink).result = .ok stats) :
    WarnsOf details (rejectionsFrom pipeline.options.maxRecordBytes 1 (records source.toBytes)) stats
      (streamEntries details (pipeline.run source sink)) :=
  ⟨pipeline.warnings_of_ended details ended, Pipeline.length_warnings_of_ended details ended⟩

theorem logsRun_of_opened {arguments : List String}
    (accepted : Invocation.ofArguments arguments = .done invocation)
    (job : invocation.job = .eval request)
    (begun : Begun surroundings find invocation settings filter)
    (governed : InForce find request settings policy) (positive : request.limit settings ≠ 0)
    (opened : Opened find standardInput request source)
    (ended : ((request.pipeline settings policy).run source {}).result = .ok stats) :
    LogsRun filter
      (streamEntries surroundings.build.details ((request.pipeline settings policy).run source {}))
      stats (run arguments surroundings find standardInput).log := by
  obtain ⟨entry, about, logged⟩ := log_run_of_opened accepted job begun governed positive opened
  refine ⟨⟨entry, about, logged⟩, fun allowed => ?_, fun allowed => ?_⟩
  · rw [logged, warnings_select, warnings_cons_of_about about,
      Pipeline.warnings_of_ended _ _ ended, select_warnings allowed]
  · rw [logged]
    refine getLast?_select ?_ allowed
    rw [List.getLast?_cons, Pipeline.getLast?_streamEntries_of_ended _ _ ended]
    rfl

end Ended

/-- The log of a stream accounts for its malformed records. A run to which nothing fails ends well,
and then its warnings are one for each record that is refused, in the order of the records, with the
number of the record among all, and `oversized` as its kind if the record is longer than the limit,
else the kind of the fault that decoding finds. The last entry of the command is the sum of the run,
with its five counts. -/
theorem log_of_eval (pipeline : Pipeline) (source : Source) (sink : Sink)
    (details : Bytes → String) :
    let input := records source.toBytes
    let outcome := pipeline.run source sink
    let entries := streamEntries details outcome
    let refused := rejectionsFrom pipeline.options.maxRecordBytes 1 input
    (source.fails = false → sink.IsSound → ∃ stats, outcome.result = .ok stats) ∧
    RefusesFor pipeline ∧ Refusals pipeline.options.maxRecordBytes input refused ∧
    ∀ stats, outcome.result = .ok stats →
      stats = Verdict.stats (input.map pipeline.verdict) ∧ WarnsOf details refused stats entries ∧
      ∀ arguments surroundings find standardInput invocation request settings filter policy,
        Invocation.ofArguments arguments = .done invocation →
        invocation.job = .eval request →
        Begun surroundings find invocation settings filter →
        InForce find request settings policy → request.limit settings ≠ 0 →
        Opened find standardInput request source →
        pipeline = request.pipeline settings policy → sink = {} →
        details = surroundings.build.details →
          LogsRun filter entries stats (run arguments surroundings find standardInput).log := by
  intro input outcome entries refused
  refine ⟨Pipeline.exists_stats_of_isSound, refusesFor pipeline, refusals_rejectionsFrom _ input,
    fun stats ended => ⟨(pipeline.run_of_ended ended).1, warnsOf_of_ended details ended, ?_⟩⟩
  intro arguments surroundings find standardInput invocation request settings filter policy accepted
    job begun governed positive opened same fresh told
  subst same fresh told
  exact logsRun_of_opened accepted job begun governed positive opened ended

/-- A stream whose pieces do not fall on its records: of a blank record, one that is not JSON, a
blank one past the limit, one past the limit and a request, the second and the fourth are warned
of. -/
theorem log_of_eval_of_pieces :
    let arguments := ["eval", "--max-record-bytes", "4"]
    let source : Source := ⟨[.bytes 0x09 [0x0A, 0x78], .interrupted, .bytes 0x0A [0x20, 0x20, 0x20],
      .bytes 0x20 [0x20, 0x0A, 0x78, 0x78, 0x78, 0x78, 0x78, 0x0A], .bytes 0x7B [0x7D]], false⟩
    let details : Bytes → String := fun _ => "expected value at line 1 column 1"
    let surroundings : Surroundings := ⟨[], "/work", none, ⟨"x86_64", "linux", fun _ => "", details⟩⟩
    let log := (run arguments surroundings (fun _ => .nothing) source).log
    warnings log =
        [{ level := .warn, target := "attrgate_abac::pipeline"
           message := "Rejected malformed record"
           fields := [("record", "2"), ("kind", "\"syntax\""),
            ("error", "invalid request record: expected value at line 1 column 1")] },
          { level := .warn, target := "attrgate_abac::pipeline"
            message := "Rejected malformed record"
            fields := [("record", "4"), ("kind", "\"oversized\""),
              ("error", "request record exceeds 4 bytes")] }] ∧
      log.getLast? = some
        { level := .info, target := "attrgate::commands::eval"
          message := "Decision stream complete"
          fields := [("records", "5"), ("blank", "2"), ("malformed", "2"), ("authorized", "0"),
            ("unauthorized", "3")] } := by
  intro arguments source details surroundings log
  let find : String → Found := fun _ => .nothing
  let request : StreamRequest := { maxRecordBytes := some 4 }
  let invocation : Invocation := { job := .eval request }
  let pipeline := request.pipeline {} .standard
  have accepted : Invocation.ofArguments arguments = .done invocation := by decide +kernel
  have loaded : Id.run (invocation.settings find surroundings) = .ok {} := by decide +kernel
  have descends : Rule.Descends Policy.standard.rules := by
    rw [Rule.Descends]
    decide
  have asked : pipeline =
      { evaluator := { rules := Policy.standard.rules, defaultEffect := .deny }
        options.maxRecordBytes := 4 } :=
    congrArg (Pipeline.mk · _) (Evaluator.ofPolicy_of_descends descends)
  have verdicts : (records source.toBytes).map pipeline.verdict =
      [.skipped, .malformed, .skipped, .malformed, .decided .unauthorized] := by
    rw [asked]
    decide +kernel
  have refused : rejectionsFrom 4 1 (records source.toBytes) =
      [(2, .json .malformed [0x78]), (4, .oversized 4)] := by decide +kernel
  obtain ⟨ends, -, -, reports⟩ := log_of_eval pipeline source {} details
  obtain ⟨stats, ended⟩ := ends rfl ⟨rfl, rfl⟩
  obtain ⟨counted, warned, logged⟩ := reports stats ended
  have logs := logged arguments surroundings find source invocation request {} _ .standard accepted
    rfl ⟨loaded, logFilter_of_default⟩ (.standard rfl) (by decide) (.standardInput rfl) rfl rfl rfl
  rw [verdicts] at counted
  refine ⟨?_, ?_⟩
  · have warned := warned.warned
    have limit : pipeline.options.maxRecordBytes = 4 := rfl
    rw [limit, refused] at warned
    rw [logs.warned (by decide), warned]
    decide +kernel
  · rw [logs.summary (by decide), counted]
    decide +kernel

end Command

end AccessStream

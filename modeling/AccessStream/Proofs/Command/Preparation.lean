import AccessStream.Command.Report
import Mathlib.Control.Monad.Basic

/-!
# Deciding a stream fails closed

Five things are settled before the first record is read: the settings, the log filter, the policy,
the limit of records, and the input. `FailsFirst` says which of them is the first that fails, and
`Ready` that none does. If one fails, the program reports it and decides nothing; else its output is
that of the pipeline, whatever is logged (`run_eval`). The exit code is 1 for every failure but one:
a log filter that would have to be cut inside a character ends the program with 101.
-/

namespace AccessStream.Command

/-- The number of bytes that a record may have: what is asked for, or else set. -/
def StreamRequest.limit (request : StreamRequest) (settings : Settings) : Nat :=
  request.maxRecordBytes.getD settings.maxRecordBytes

/-- The pipeline that is asked for, or else set, under a policy. -/
def StreamRequest.pipeline (request : StreamRequest) (settings : Settings) (policy : Policy) :
    Pipeline where
  evaluator := .ofPolicy policy
  options :=
    { flush := request.flush.getD settings.flush
      maxRecordBytes := request.limit settings }

section Steps

variable (surroundings : Surroundings) (find : String → Found) (standardInput : Source)
  (invocation : Invocation) (request : StreamRequest)

/-- The settings are loaded and the log filter is read. -/
structure Begun (settings : Settings) (filter : Log.Filter) : Prop where
  loaded : Id.run (invocation.settings find surroundings) = .ok settings
  read : logFilter surroundings.environment invocation.logLevel settings.logLevel = .ok filter

/-- A policy is in force: that of the file that is asked for, or else set, or else the standard
one. -/
inductive InForce (settings : Settings) : Policy → Prop
  | file {path : String} {policy : Policy}
      (named : request.policy.or settings.policyPath = some path)
      (loaded : Id.run (Policy.load find path) = .ok policy) : InForce settings policy
  | standard (unnamed : request.policy.or settings.policyPath = none) : InForce settings .standard

/-- A source is opened: the file that is asked for, or else the standard input. -/
inductive Opened : Source → Prop
  | file {path : String} {source : Source} (named : request.input = some path)
      (found : sourceOf? (find path) = some source) : Opened source
  | standardInput (unnamed : request.input = none) : Opened standardInput

/-- The first step that fails, with its failure. -/
inductive FailsFirst : Failure → Prop
  | settings {failure : Failure}
      (unloaded : Id.run (invocation.settings find surroundings) = .error failure) :
      FailsFirst failure
  | filter {settings : Settings} {failure : Failure}
      (loaded : Id.run (invocation.settings find surroundings) = .ok settings)
      (unread : logFilter surroundings.environment invocation.logLevel settings.logLevel =
        .error failure) : FailsFirst failure
  | policy {settings : Settings} {filter : Log.Filter} {path : String} {cause : PolicyError}
      (begun : Begun surroundings find invocation settings filter)
      (named : request.policy.or settings.policyPath = some path)
      (unloaded : Id.run (Policy.load find path) = .error cause) : FailsFirst (.policy path cause)
  | limit {settings : Settings} {filter : Log.Filter} {policy : Policy}
      (begun : Begun surroundings find invocation settings filter)
      (governed : InForce find request settings policy) (zero : request.limit settings = 0) :
      FailsFirst .zeroLimit
  | input {settings : Settings} {filter : Log.Filter} {policy : Policy} {path : String}
      (begun : Begun surroundings find invocation settings filter)
      (governed : InForce find request settings policy) (positive : request.limit settings ≠ 0)
      (named : request.input = some path) (absent : find path = .nothing) :
      FailsFirst (.input path)

/-- No step fails, and this is what they come to. -/
structure Ready (settings : Settings) (policy : Policy) (source : Source) : Prop where
  begun : ∃ filter, Begun surroundings find invocation settings filter
  governed : InForce find request settings policy
  positive : request.limit settings ≠ 0
  opened : Opened find standardInput request source

end Steps

/-- An entry about the policy in force, and not about a record. -/
def IsAboutPolicy (entry : Log.Entry) : Prop :=
  entry = .standardPolicy ∨ ∃ path policy, entry = .ofPolicy path policy

variable {surroundings : Surroundings} {find : String → Found} {standardInput : Source}
  {invocation : Invocation} {request : StreamRequest} {settings : Settings} {filter : Log.Filter}
  {policy : Policy}

/-! ## Exit codes -/

theorem exitCode_eq (failure : Failure) :
    failure.exitCode = 1 ∧ (∀ text, failure ≠ .splitLogLevel text) ∨
      failure.exitCode = 101 ∧ ∃ text, failure = .splitLogLevel text := by
  cases failure with
  | splitLogLevel text => exact .inr ⟨rfl, text, rfl⟩
  | _ => exact .inl ⟨rfl, nofun⟩

theorem readFilter_eq_splitLogLevel {text named : String} {otherwise : Except Failure Log.Filter}
    (h : readFilter text otherwise = .error (.splitLogLevel named))
    (other : otherwise = .error (.splitLogLevel named) →
      Log.Filter.read named = .error .splitCharacter) :
    Log.Filter.read named = .error .splitCharacter := by
  rw [readFilter] at h
  cases read : Log.Filter.read text with
  | ok filter =>
    rw [read] at h
    cases h
  | error fault =>
    rw [read] at h
    cases fault with
    | malformed => exact other h
    | splitCharacter =>
      cases h
      exact read

/-- Only a text that cannot be read so is said to need a cut inside a character. -/
theorem logFilter_eq_splitLogLevel {environment : Environment} {flag : Option String}
    {configured text : String}
    (h : logFilter environment flag configured = .error (.splitLogLevel text)) :
    Log.Filter.read text = .error .splitCharacter := by
  cases flag with
  | some named => exact readFilter_eq_splitLogLevel h nofun
  | none =>
    rw [logFilter] at h
    cases found : environment.lookup "RUST_LOG" with
    | none =>
      rw [found] at h
      exact readFilter_eq_splitLogLevel h nofun
    | some named =>
      rw [found] at h
      exact readFilter_eq_splitLogLevel h fun fallback => readFilter_eq_splitLogLevel fallback nofun

theorem mapError_ne_error {α β γ : Type} {x : Except α γ} {f : α → β} {error : β}
    (h : ∀ cause, f cause ≠ error) : x.mapError f ≠ .error error := by
  cases x with
  | ok _ => exact nofun
  | error cause =>
    intro same
    exact h cause (Except.error.inj same)

/-- Loading settings reads no log filter. -/
theorem settings_ne_splitLogLevel {text : String} :
    Id.run (invocation.settings find surroundings) ≠ .error (.splitLogLevel text) := by
  rw [Invocation.settings]
  cases invocation.configFile with
  | some path => exact mapError_ne_error nofun
  | none => exact mapError_ne_error nofun

/-! ## Plans -/

theorem run_of_accepted {arguments : List String}
    (accepted : Invocation.ofArguments arguments = .done invocation) :
    run arguments surroundings find standardInput =
      (Id.run (invocation.plan find surroundings)).report surroundings.build.details find
        standardInput := by
  rw [run, accepted]
  rfl

theorem ne_version (job : invocation.job = .eval request) : invocation.job ≠ .version := by
  rw [job]
  exact nofun

theorem plan_of_unloaded {failure : Failure} (job : invocation.job = .eval request)
    (unloaded : Id.run (invocation.settings find surroundings) = .error failure) :
    Id.run (invocation.plan find surroundings) = { task := .fail failure } := by
  simp only [Invocation.plan, if_neg (ne_version job), Id.run_bind, unloaded, Id.run_pure]

theorem plan_of_unread {failure : Failure} (job : invocation.job = .eval request)
    (loaded : Id.run (invocation.settings find surroundings) = .ok settings)
    (unread : logFilter surroundings.environment invocation.logLevel settings.logLevel =
      .error failure) :
    Id.run (invocation.plan find surroundings) = { task := .fail failure } := by
  simp only [Invocation.plan, if_neg (ne_version job), Id.run_bind, loaded, unread, Id.run_pure]

/-- Once the settings are loaded and the log filter is read, it is up to the job. -/
theorem plan_of_ne_version (other : invocation.job ≠ .version)
    (begun : Begun surroundings find invocation settings filter) :
    Id.run (invocation.plan find surroundings) =
      Id.run (invocation.job.plan find surroundings.build settings filter) := by
  simp only [Invocation.plan, if_neg other, Id.run_bind, begun.loaded, begun.read]

theorem plan_of_begun (job : invocation.job = .eval request)
    (begun : Begun surroundings find invocation settings filter) :
    Id.run (invocation.plan find surroundings) = Id.run
      (planUnder find filter request.policy settings.policyPath (request.task settings)) := by
  rw [plan_of_ne_version (ne_version job) begun, job]
  rfl

theorem plan_of_unloaded_policy {path : String} {cause : PolicyError}
    (job : invocation.job = .eval request)
    (begun : Begun surroundings find invocation settings filter)
    (named : request.policy.or settings.policyPath = some path)
    (unloaded : Id.run (Policy.load find path) = .error cause) :
    Id.run (invocation.plan find surroundings) =
      { filter, task := .fail (.policy path cause) } := by
  rw [plan_of_begun job begun]
  simp only [planUnder, policyInForce, named, Id.run_bind, unloaded, Id.run_pure]

/-- Under the policy in force nothing is left but the task. -/
theorem planUnder_of_inForce (filter : Log.Filter) (governed : InForce find request settings policy)
    (task : Policy → Task) :
    ∃ entry, IsAboutPolicy entry ∧
      Id.run (planUnder find filter request.policy settings.policyPath task) =
        { filter, entries := [entry], task := task policy } := by
  cases governed with
  | @file path _ named loaded =>
    refine ⟨.ofPolicy path policy, .inr ⟨path, policy, rfl⟩, ?_⟩
    simp only [planUnder, policyInForce, named, Id.run_bind, loaded, Id.run_pure]
  | standard unnamed =>
    refine ⟨.standardPolicy, .inl rfl, ?_⟩
    simp only [planUnder, policyInForce, unnamed, Id.run_bind, Id.run_pure]

theorem plan_of_inForce (job : invocation.job = .eval request)
    (begun : Begun surroundings find invocation settings filter)
    (governed : InForce find request settings policy) :
    ∃ entry, IsAboutPolicy entry ∧ Id.run (invocation.plan find surroundings) =
      { filter, entries := [entry], task := request.task settings policy } := by
  rw [plan_of_begun job begun]
  exact planUnder_of_inForce filter governed (request.task settings)

theorem task_of_zero (zero : request.limit settings = 0) :
    request.task settings policy = .fail .zeroLimit := if_pos zero

theorem task_of_ne_zero (positive : request.limit settings ≠ 0) :
    request.task settings policy = .decide (request.pipeline settings policy) request.input :=
  if_neg positive

/-! ## Reports -/

theorem about_policy_of_select {entry : Log.Entry} (about : IsAboutPolicy entry) :
    ∀ other ∈ filter.select [entry], IsAboutPolicy other := by
  intro other among
  obtain rfl := List.mem_singleton.1 (List.mem_filter.1 among).1
  exact about

variable (standardInput) in
/-- A step that fails is what is reported, and no record is decided. -/
theorem run_of_failsFirst {arguments : List String} {failure : Failure}
    (accepted : Invocation.ofArguments arguments = .done invocation)
    (job : invocation.job = .eval request)
    (fails : FailsFirst surroundings find invocation request failure) :
    ∃ log, (∀ entry ∈ log, IsAboutPolicy entry) ∧
      run arguments surroundings find standardInput =
        { exitCode := failure.exitCode, failure := some failure, log } := by
  rw [run_of_accepted accepted]
  cases fails with
  | settings unloaded =>
    rw [plan_of_unloaded job unloaded]
    exact ⟨[], nofun, rfl⟩
  | filter loaded unread =>
    rw [plan_of_unread job loaded unread]
    exact ⟨[], nofun, rfl⟩
  | policy begun named unloaded =>
    rw [plan_of_unloaded_policy job begun named unloaded]
    exact ⟨[], nofun, rfl⟩
  | limit begun governed zero =>
    obtain ⟨entry, about, plan⟩ := plan_of_inForce job begun governed
    rw [plan, task_of_zero zero]
    exact ⟨_, about_policy_of_select about, rfl⟩
  | @input _ filter _ _ begun governed positive named absent =>
    obtain ⟨entry, about, plan⟩ := plan_of_inForce job begun governed
    rw [plan, task_of_ne_zero positive]
    refine ⟨filter.select [entry], about_policy_of_select about, ?_⟩
    simp only [Plan.report, inputSource, named, absent, sourceOf?]

theorem inputSource_of_opened {source : Source}
    (opened : Opened find standardInput request source) :
    inputSource find standardInput request.input = .ok source := by
  cases opened with
  | file named found => simp only [inputSource, named, found]
  | standardInput unnamed => simp only [inputSource, unnamed]

theorem report_of_opened {details : Bytes → String} {entries : List Log.Entry} {pipeline : Pipeline}
    {input : Option String} {source : Source}
    (opened : inputSource find standardInput input = .ok source) :
    let plan : Plan := { filter, entries, task := .decide pipeline input }
    let report := plan.report details find standardInput
    let outcome := pipeline.run source {}
    report.output = outcome.sink.taken.toList ∧
      (report.exitCode = 0 ↔ ∃ stats, outcome.result = .ok stats) := by
  simp only [Plan.report, opened]
  cases (pipeline.run source {}).result with
  | ok stats => exact ⟨rfl, fun _ => ⟨stats, rfl⟩, fun _ => rfl⟩
  | error failure => exact ⟨rfl, nofun, nofun⟩

/-- If no step fails, the output is that of the pipeline, and so is the exit code. -/
theorem run_of_ready {arguments : List String} {source : Source}
    (accepted : Invocation.ofArguments arguments = .done invocation)
    (job : invocation.job = .eval request)
    (ready : Ready surroundings find standardInput invocation request settings policy source) :
    let report := run arguments surroundings find standardInput
    let outcome := (request.pipeline settings policy).run source {}
    report.output = outcome.sink.taken.toList ∧
      (report.exitCode = 0 ↔ ∃ stats, outcome.result = .ok stats) := by
  obtain ⟨filter, begun⟩ := ready.begun
  obtain ⟨entry, -, plan⟩ := plan_of_inForce job begun ready.governed
  rw [run_of_accepted accepted, plan, task_of_ne_zero ready.positive]
  exact report_of_opened (inputSource_of_opened ready.opened)

/-! ## Deciding -/

theorem inForce_or_unloaded (settings : Settings) :
    (∃ policy, InForce find request settings policy) ∨
      ∃ path cause, request.policy.or settings.policyPath = some path ∧
        Id.run (Policy.load find path) = .error cause := by
  cases named : request.policy.or settings.policyPath with
  | none => exact .inl ⟨.standard, .standard named⟩
  | some path =>
    cases loaded : Id.run (Policy.load find path) with
    | ok policy => exact .inl ⟨policy, .file named loaded⟩
    | error cause => exact .inr ⟨path, cause, rfl, loaded⟩

theorem opened_or_absent :
    (∃ source, Opened find standardInput request source) ∨
      ∃ path, request.input = some path ∧ find path = .nothing := by
  cases named : request.input with
  | none => exact .inl ⟨standardInput, .standardInput named⟩
  | some path =>
    cases found : find path with
    | file content => exact .inl ⟨.ofBytes content, .file named (by rw [found]; rfl)⟩
    | directory => exact .inl ⟨⟨[], true⟩, .file named (by rw [found]; rfl)⟩
    | nothing => exact .inr ⟨path, rfl, found⟩

/-- Either a step is the first that fails, or none fails. -/
theorem failsFirst_or_ready :
    (∃ failure, FailsFirst surroundings find invocation request failure) ∨
      ∃ settings policy source,
        Ready surroundings find standardInput invocation request settings policy source := by
  cases loaded : Id.run (invocation.settings find surroundings) with
  | error failure => exact .inl ⟨failure, .settings loaded⟩
  | ok settings =>
    cases read : logFilter surroundings.environment invocation.logLevel settings.logLevel with
    | error failure => exact .inl ⟨failure, .filter loaded read⟩
    | ok filter =>
      have begun : Begun surroundings find invocation settings filter := ⟨loaded, read⟩
      rcases inForce_or_unloaded settings with ⟨policy, governed⟩ | ⟨path, cause, named, unloaded⟩
      · by_cases zero : request.limit settings = 0
        · exact .inl ⟨_, .limit begun governed zero⟩
        · rcases opened_or_absent with ⟨source, opened⟩ | ⟨path, named, absent⟩
          · exact .inr ⟨settings, policy, source, ⟨filter, begun⟩, governed, zero, opened⟩
          · exact .inl ⟨_, .input begun governed zero named absent⟩
      · exact .inl ⟨_, .policy begun named unloaded⟩

theorem read_eq_splitCharacter {text : String}
    (fails : FailsFirst surroundings find invocation request (.splitLogLevel text)) :
    Log.Filter.read text = .error .splitCharacter := by
  cases fails with
  | settings unloaded => exact absurd unloaded settings_ne_splitLogLevel
  | filter loaded unread => exact logFilter_eq_splitLogLevel unread

variable (standardInput) in
/-- Deciding a stream fails closed. The first step that fails before the first record is what is
reported, with nothing on the output, no entry about a record, and exit code 1, unless a log filter
would have to be cut inside a character. If no step fails, the output is that of the pipeline under
what is asked for, and else set, whatever the log filter is. -/
theorem run_eval {arguments : List String}
    (accepted : Invocation.ofArguments arguments = .done invocation)
    (job : invocation.job = .eval request) :
    let report := run arguments surroundings find standardInput
    (∀ failure, FailsFirst surroundings find invocation request failure →
      report.failure = some failure ∧ report.output = [] ∧
        (∀ entry ∈ report.log, IsAboutPolicy entry) ∧
        (report.exitCode = 1 ∧ (∀ text, failure ≠ .splitLogLevel text) ∨
          report.exitCode = 101 ∧ ∃ text, failure = .splitLogLevel text ∧
            Log.Filter.read text = .error .splitCharacter)) ∧
    (∀ settings policy source,
      Ready surroundings find standardInput invocation request settings policy source →
        let outcome := (request.pipeline settings policy).run source {}
        report.output = outcome.sink.taken.toList ∧
          (report.exitCode = 0 ↔ ∃ stats, outcome.result = .ok stats)) ∧
    ((∃ failure, FailsFirst surroundings find invocation request failure) ∨
      ∃ settings policy source,
        Ready surroundings find standardInput invocation request settings policy source) := by
  intro report
  refine ⟨fun failure fails => ?_, fun settings policy source ready => ?_, failsFirst_or_ready⟩
  · obtain ⟨log, about, reported⟩ := run_of_failsFirst standardInput accepted job fails
    have reported : report = { exitCode := failure.exitCode, failure := some failure, log } :=
      reported
    rw [reported]
    refine ⟨rfl, rfl, about, ?_⟩
    rcases exitCode_eq failure with ⟨code, other⟩ | ⟨code, text, rfl⟩
    · exact .inl ⟨code, other⟩
    · exact .inr ⟨code, text, rfl, read_eq_splitCharacter fails⟩
  · exact run_of_ready accepted job ready

/-- Where nothing else is said, the log filter lets through what is at least an information. -/
theorem logFilter_of_default : logFilter [] none "info" = .ok ⟨[{ rank := 3 }]⟩ := by
  decide +kernel

/-- Of a limit of zero and an input that is not there the limit is reported. -/
theorem run_eval_zero_limit :
    let arguments := ["eval", "--max-record-bytes", "0", "--input", "requests.jsonl"]
    let build : Build := ⟨"x86_64", "linux", fun _ => "", fun _ => ""⟩
    let surroundings : Surroundings := ⟨[], "/work", none, build⟩
    let report := run arguments surroundings (fun _ => .nothing) (.ofBytes [])
    report.failure = some .zeroLimit ∧ report.output = [] ∧ report.exitCode = 1 := by
  intro arguments build surroundings report
  let find : String → Found := fun _ => .nothing
  let request : StreamRequest := { input := some "requests.jsonl", maxRecordBytes := some 0 }
  let invocation : Invocation := { job := .eval request }
  have accepted : Invocation.ofArguments arguments = .done invocation := by decide +kernel
  have loaded : Id.run (invocation.settings find surroundings) = .ok {} := by
    decide +kernel
  have fails : FailsFirst surroundings find invocation request .zeroLimit :=
    .limit ⟨loaded, logFilter_of_default⟩ (.standard rfl) rfl
  obtain ⟨failed, empty, -, code⟩ := (run_eval (.ofBytes []) accepted rfl).1 .zeroLimit fails
  refine ⟨failed, empty, ?_⟩
  rcases code with ⟨one, -⟩ | ⟨-, text, other, -⟩
  · exact one
  · cases other

/-- A log filter that would have to be cut inside a character does not end with exit code 1. -/
theorem run_eval_of_split_level :
    let arguments := ["eval", "--log-level", " é=info"]
    let build : Build := ⟨"x86_64", "linux", fun _ => "", fun _ => ""⟩
    let surroundings : Surroundings := ⟨[], "/work", none, build⟩
    let find : String → Found := fun _ => .nothing
    let invocation : Invocation := { logLevel := some " é=info", job := .eval {} }
    Invocation.ofArguments arguments = .done invocation ∧
      FailsFirst surroundings find invocation {} (.splitLogLevel " é=info") ∧
      (run arguments surroundings find (.ofBytes [])).exitCode = 101 := by
  intro arguments build surroundings find invocation
  have accepted : Invocation.ofArguments arguments = .done invocation := by decide +kernel
  have loaded : Id.run (invocation.settings find surroundings) = .ok {} := by
    decide +kernel
  have unread : logFilter [] (some " é=info") "info" = .error (.splitLogLevel " é=info") := by
    decide +kernel
  have fails : FailsFirst surroundings find invocation {} (.splitLogLevel " é=info") :=
    .filter loaded unread
  obtain ⟨log, -, reported⟩ := run_of_failsFirst (.ofBytes []) accepted rfl fails
  refine ⟨accepted, fails, ?_⟩
  rw [reported]
  rfl

end AccessStream.Command

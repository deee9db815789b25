import AccessStream.Command.Plan

/-!
# Reports

A report is all that a run of the program leaves behind: what it printed, what it logged, why it
failed if it did, and its exit code, which is zero for success, that of the failure if there was
one, and two for a command line that is not well formed.
-/

namespace AccessStream.Command

/-- What a run of the program leaves behind. -/
structure Report where
  /-- The exit code. -/
  exitCode : Nat := 0
  /-- The bytes on the standard output. -/
  output : Bytes := []
  /-- Why the program failed, if it did for another reason than its command line. -/
  failure : Option Failure := none
  /-- The entries that were logged. -/
  log : List Log.Entry := []
  deriving DecidableEq, Repr

/-- The source that reads what stands under a path; a directory can be opened, but not read. -/
def sourceOf? : Found → Option Source
  | .file content => some (.ofBytes content)
  | .directory => some ⟨[], true⟩
  | .nothing => none

/-- The source that a stream is read from. -/
def inputSource (find : String → Found) (standardInput : Source) (input : Option String) :
    Except Failure Source :=
  match input with
  | none => .ok standardInput
  | some path =>
    match sourceOf? (find path) with
    | some source => .ok source
    | none => .error (.input path)

/-- The entries of a run of a pipeline, with what the JSON reader says of records. -/
def streamEntries (details : Bytes → String) (run : StreamRun) : List Log.Entry :=
  run.events.toList.map (.ofEvent details) ++
    match run.result with
    | .ok stats => [.ofStats stats]
    | .error _ => []

/-- Carries out a plan. -/
def Plan.report (details : Bytes → String) (find : String → Found) (standardInput : Source)
    (plan : Plan) : Report :=
  let log := plan.filter.select plan.entries
  match plan.task with
  | .print text => { output := Utf8.encode text, log }
  | .fail failure => { exitCode := failure.exitCode, failure := some failure, log }
  | .decide pipeline input =>
    match inputSource find standardInput input with
    | .error failure => { exitCode := failure.exitCode, failure := some failure, log }
    | .ok source =>
      let run := pipeline.run source {}
      let log := plan.filter.select (plan.entries ++ streamEntries details run)
      match run.result with
      | .ok _ => { output := run.sink.taken.toList, log }
      | .error failure =>
        let failure : Failure := .stream failure
        { exitCode := failure.exitCode, output := run.sink.taken.toList, failure := some failure
          log }

/-- Runs the program on its arguments, its surroundings, files and standard input. -/
def run (arguments : List String) (surroundings : Surroundings) (find : String → Found)
    (standardInput : Source) : Report :=
  match Invocation.ofArguments arguments with
  | .refused => { exitCode := 2 }
  | .shows text => { output := Utf8.encode text }
  | .helps verb => { output := Utf8.encode (surroundings.build.usage verb) }
  | .done invocation =>
    (invocation.plan (m := Id) find surroundings).report surroundings.build.details find
      standardInput

end AccessStream.Command

import AccessStream.Evaluation
import AccessStream.Record
import AccessStream.Stream.Options
import AccessStream.Stream.Sink
import AccessStream.Stream.Source

/-!
# The decision stream

A pipeline reads one record after the other and writes one line for each that is not blank: the
decision of its evaluator, or, for a record that gives no attribute set, `unauthorized`. A line is
written before the next record is read. The pipeline stops at the end of the input, or when reading
or writing fails; what it has written by then it flushes.
-/

namespace AccessStream

/-- Why a pipeline stopped before the end of its input. -/
inductive StreamFailure where
  /-- The source failed. -/
  | read
  /-- The sink failed. -/
  | write
  deriving DecidableEq, Repr

/-- The description of a failure. -/
def StreamFailure.message : StreamFailure → String
  | read => "failed to read input stream"
  | write => "failed to write decision stream"

/-- How many records of each kind a pipeline met. -/
structure StreamStats where
  /-- The records, blank ones included. -/
  records : Nat := 0
  /-- The blank records. -/
  blank : Nat := 0
  /-- The records that gave no attribute set, which count as unauthorized too. -/
  malformed : Nat := 0
  /-- The lines that say `authorized`. -/
  authorized : Nat := 0
  /-- The lines that say `unauthorized`. -/
  unauthorized : Nat := 0
  deriving DecidableEq, Repr

/-- The number of lines. -/
def StreamStats.decisions (stats : StreamStats) : Nat := stats.authorized + stats.unauthorized

/-- The counts after one more line. -/
def StreamStats.count (stats : StreamStats) : Decision → StreamStats
  | .authorized => { stats with authorized := stats.authorized + 1 }
  | .unauthorized => { stats with unauthorized := stats.unauthorized + 1 }

/-- What a pipeline reports about its course. Records are counted from one, blank ones included. -/
inductive StreamEvent where
  /-- A record was decided. -/
  | decided (record : Nat) (decision : Decision)
  /-- A record gave no attribute set. -/
  | rejected (record : Nat) (error : RecordError)
  /-- The input ended. -/
  | ended (stats : StreamStats)
  deriving DecidableEq, Repr

/-- What becomes of a record: a decision, nothing if it is blank, or an error. -/
abbrev RecordOutcome := Except RecordError (Option Decision)

/-- The decision that is written for a record, if any. -/
def RecordOutcome.line? : RecordOutcome → Option Decision
  | .ok decision => decision
  | .error error => some error.decision

/-- The line that says a decision. -/
def Decision.line (decision : Decision) : Bytes := Utf8.encode decision.name ++ [lineFeed]

/-- The counts after one more record. -/
def StreamStats.add (stats : StreamStats) (outcome : RecordOutcome) : StreamStats :=
  let stats := { stats with records := stats.records + 1 }
  match outcome with
  | .ok none => { stats with blank := stats.blank + 1 }
  | .ok (some decision) => stats.count decision
  | .error error => { stats with malformed := stats.malformed + 1 }.count error.decision

/-- What is reported about a record with the given number. -/
def StreamEvent.ofOutcome? (record : Nat) : RecordOutcome → Option StreamEvent
  | .ok none => none
  | .ok (some decision) => some (.decided record decision)
  | .error error => some (.rejected record error)

/-- How far a pipeline has come. -/
structure Progress where
  /-- What it writes to. -/
  sink : Sink
  /-- The counts of the records so far. -/
  stats : StreamStats := {}
  /-- The reports so far. -/
  events : Array StreamEvent := #[]
  deriving DecidableEq, Repr

namespace Progress

/-- The progress after one more record, before anything is written for it. -/
def note (progress : Progress) (outcome : RecordOutcome) : Progress :=
  let stats := progress.stats.add outcome
  { progress with
    stats
    events := progress.events ++ (StreamEvent.ofOutcome? stats.records outcome).toList }

/-- The progress after an attempt to flush, and whether it succeeded. -/
def flush (progress : Progress) : Bool × Progress :=
  let (flushed, sink) := progress.sink.flush
  (flushed, { progress with sink })

/-- The progress after an attempt to write the line of a decision, and whether it succeeded. -/
def writeLine (mode : FlushMode) (progress : Progress) (decision : Decision) : Bool × Progress :=
  let (written, sink) := progress.sink.write decision.line
  let progress := { progress with sink }
  if written && mode = .everyRecord then progress.flush else (written, progress)

end Progress

/-- How a run of a pipeline came out. -/
structure StreamRun where
  /-- The counts, or why the run stopped before the end of the input. -/
  result : Except StreamFailure StreamStats
  /-- The sink after the run. -/
  sink : Sink
  /-- The reports of the run. -/
  events : Array StreamEvent

/-- An evaluator with the options of the stream that it serves. -/
structure Pipeline where
  /-- What decides requests. -/
  evaluator : Evaluator
  /-- The options of the stream. -/
  options : StreamOptions := {}
  deriving DecidableEq, Repr

namespace Pipeline

/-- What becomes of a record within the limit. -/
def decideRecord (pipeline : Pipeline) (record : Bytes) : RecordOutcome :=
  match Record.decode record with
  | .ok set => .ok (set.map fun set => pipeline.evaluator.decide (Request.ofSet set))
  | .error error => .error error

/-- What becomes of a record that was read to its end. -/
def judge (pipeline : Pipeline) : Frame → RecordOutcome
  | .complete record => pipeline.decideRecord record
  | .oversized true => .ok none
  | .oversized false => .error (.oversized pipeline.options.maxRecordBytes)

/-- What one turn of a pipeline comes to. -/
inductive Turn where
  /-- A record is done. -/
  | next (source : Source) (progress : Progress)
  /-- There is nothing more to do. -/
  | stop (run : StreamRun)

/-- A run that stops because of a failure. -/
def fail (failure : StreamFailure) (progress : Progress) : StreamRun :=
  ⟨.error failure, progress.sink, progress.events⟩

/-- The run that stops at the end of the input, after a last flush. -/
def finish (progress : Progress) : StreamRun :=
  match progress.flush with
  | (true, progress) =>
    ⟨.ok progress.stats, progress.sink, progress.events.push (.ended progress.stats)⟩
  | (false, progress) => fail .write progress

/-- The turn in which a record was read. -/
def settle (pipeline : Pipeline) (source : Source) (progress : Progress) (frame : Frame) : Turn :=
  let outcome := pipeline.judge frame
  let progress := progress.note outcome
  match outcome.line? with
  | none => .next source progress
  | some decision =>
    match progress.writeLine pipeline.options.flush decision with
    | (true, progress) => .next source progress
    | (false, progress) => .stop (fail .write progress)

/-- Reads a record and writes its line. A source that fails leaves what was written before flushed,
if the sink allows it. -/
def turn (pipeline : Pipeline) (source : Source) (progress : Progress) : Turn :=
  match source.next pipeline.options.maxRecordBytes with
  | (.record frame, source) => pipeline.settle source progress frame
  | (.ended, _) => .stop (finish progress)
  | (.failed, _) => .stop (fail .read progress.flush.2)

theorem source_of_settle {pipeline : Pipeline} {source after : Source} {progress further : Progress}
    {frame : Frame} (h : pipeline.settle source progress frame = .next after further) :
    after = source := by
  simp only [settle] at h
  repeat' split at h
  all_goals simp_all

/-- Each turn but the last leaves less of the source. -/
theorem weight_of_turn {pipeline : Pipeline} {source after : Source} {progress further : Progress}
    (h : pipeline.turn source progress = .next after further) :
    Source.weight after.reads < Source.weight source.reads := by
  unfold turn at h
  split at h
  · rename_i frame rest found
    have lt := Source.weight_next_lt (congrArg Prod.fst found)
    rw [found] at lt
    rw [source_of_settle h]
    exact lt
  · simp at h
  · simp at h

/-- The rest of a run. -/
def runFrom (pipeline : Pipeline) (source : Source) (progress : Progress) : StreamRun :=
  match _turn : pipeline.turn source progress with
  | .next source progress => pipeline.runFrom source progress
  | .stop run => run
termination_by Source.weight source.reads
decreasing_by exact weight_of_turn _turn

/-- Runs a pipeline from a source to a sink. -/
def run (pipeline : Pipeline) (source : Source) (sink : Sink) : StreamRun :=
  pipeline.runFrom source { sink }

end Pipeline

end AccessStream

import AccessStream.Proofs.Stream.Run
import Mathlib.Data.List.Induction

/-!
# The lines and counts of a run

Each record of the input has a verdict of its own, which depends on nothing but the record, the
limit and the evaluator. A run that meets no failure writes the lines of the verdicts in the order
of the records and counts the verdicts of each kind (`Pipeline.run_of_no_failure`), whatever the
pieces in which the input arrives, the interruptions between them and the mode of flushing.
-/

namespace AccessStream

/-- The bytes that make up a record which is blank although it is longer than the limit: space, tab,
line feed, form feed and carriage return. -/
def asciiBlanks : Bytes := [0x20, 0x09, 0x0A, 0x0C, 0x0D]

/-- What a record comes to. -/
inductive Verdict where
  /-- The record is blank, and nothing is written for it. -/
  | skipped
  /-- The record gives no attribute set. -/
  | malformed
  /-- The record is a request, with the decision on it. -/
  | decided (decision : Decision)
  deriving DecidableEq, Repr

namespace Verdict

/-- What is written for a record. -/
def line : Verdict → Bytes
  | skipped => []
  | malformed => Utf8.encode "unauthorized\n"
  | decided .authorized => Utf8.encode "authorized\n"
  | decided .unauthorized => Utf8.encode "unauthorized\n"

/-- How many records there are of each kind. -/
def stats (verdicts : List Verdict) : StreamStats where
  records := verdicts.length
  blank := verdicts.count skipped
  malformed := verdicts.count malformed
  authorized := verdicts.count (decided .authorized)
  unauthorized := verdicts.count (decided .unauthorized) + verdicts.count malformed

/-- The verdict that an outcome stands for. -/
def ofOutcome : RecordOutcome → Verdict
  | .ok none => skipped
  | .ok (some decision) => decided decision
  | .error _ => malformed

theorem line_ofOutcome (outcome : RecordOutcome) :
    (ofOutcome outcome).line = outcome.line?.elim [] Decision.line := by
  match outcome with
  | .ok none => rfl
  | .ok (some .authorized) => rfl
  | .ok (some .unauthorized) => rfl
  | .error error => rfl

/-- Counting outcomes one by one is counting their verdicts. -/
theorem foldl_add_eq_stats (outcomes : List RecordOutcome) :
    outcomes.foldl StreamStats.add {} = stats (outcomes.map ofOutcome) := by
  induction outcomes using List.reverseRecOn with
  | nil => rfl
  | append_singleton outcomes outcome ih =>
    rw [List.foldl_append, ih, List.map_append]
    match outcome with
    | .ok none => simp [stats, StreamStats.add, ofOutcome]
    | .ok (some .authorized) =>
      simp [stats, StreamStats.add, StreamStats.count, ofOutcome]
    | .ok (some .unauthorized) =>
      simp [stats, StreamStats.add, StreamStats.count, ofOutcome]
      omega
    | .error error =>
      simp [stats, StreamStats.add, StreamStats.count, ofOutcome, RecordError.decision]
      omega

end Verdict

namespace Pipeline

/-- The verdict on a record. One within the limit is decoded, and the evaluator decides on the
attribute set that it holds; of a longer one it only counts whether all its bytes are blank. -/
def verdict (pipeline : Pipeline) (record : Bytes) : Verdict :=
  if record.length ≤ pipeline.options.maxRecordBytes then
    match Record.decode record with
    | .ok none => .skipped
    | .ok (some set) => .decided (pipeline.evaluator.decide (Request.ofSet set))
    | .error _ => .malformed
  else if record.all asciiBlanks.contains then .skipped
  else .malformed

theorem isBlankByte_eq_contains (byte : UInt8) :
    Frame.isBlankByte byte = asciiBlanks.contains byte := by
  rw [Bool.eq_iff_iff, List.contains_iff_mem]
  simp [Frame.isBlankByte, asciiBlanks, or_assoc]

/-- The verdict on a record is what its frame is judged to be. -/
theorem verdict_eq (pipeline : Pipeline) (record : Bytes) :
    pipeline.verdict record = Verdict.ofOutcome
      (pipeline.judge (Frame.ofRecord pipeline.options.maxRecordBytes record)) := by
  rw [verdict, Frame.ofRecord]
  by_cases fits : record.length ≤ pipeline.options.maxRecordBytes
  · rw [if_pos fits, if_pos fits, judge, decideRecord]
    rcases Record.decode record with error | _ | set <;> rfl
  · rw [if_neg fits, if_neg fits]
    have blank : Frame.isBlankByte = asciiBlanks.contains := funext isBlankByte_eq_contains
    rw [blank]
    by_cases all : record.all asciiBlanks.contains = true
    · rw [if_pos all, all]
      rfl
    · rw [if_neg all, Bool.eq_false_iff.2 all]
      rfl

/-- A run in which neither the source nor the sink fails ends with the counts of its records, and
writes their lines in order. -/
theorem run_of_no_failure (pipeline : Pipeline) (reads : List Read) :
    let run := pipeline.run { reads, fails := false } {}
    let verdicts := (records (reads.flatMap Read.toBytes)).map pipeline.verdict
    run.result = .ok (Verdict.stats verdicts) ∧
      run.sink.taken.toList = verdicts.flatMap Verdict.line := by
  intro run verdicts
  let outcomes := ((records (reads.flatMap Read.toBytes)).map
    (Frame.ofRecord pipeline.options.maxRecordBytes)).map pipeline.judge
  let final := outcomes.foldl (Progress.advance pipeline.options.flush) { sink := {} }
  have sound : ({ sink := {} } : Progress).sink.IsSound := ⟨rfl, rfl⟩
  have judged : outcomes.map Verdict.ofOutcome = verdicts := by
    simp only [outcomes, verdicts, List.map_map]
    exact List.map_congr_left fun record _ => (pipeline.verdict_eq record).symm
  have course : run = finish final := by
    simp only [run, Pipeline.run]
    rw [runFrom_eq_settleAll, settleAll_of_isSound pipeline _ sound]
    rfl
  obtain ⟨result, taken⟩ := finish_of_isSound
    (Progress.isSound_foldl_advance pipeline.options.flush _ outcomes sound)
  rw [course]
  constructor
  · rw [result, Progress.stats_foldl_advance, ← judged, ← Verdict.foldl_add_eq_stats]
  · rw [taken, Progress.taken_foldl_advance _ _ _ sound, ← judged]
    simp only [List.flatMap_map, Verdict.line_ofOutcome]
    rfl

end Pipeline

end AccessStream

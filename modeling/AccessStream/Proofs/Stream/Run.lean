import AccessStream.Proofs.Stream.Reader
import AccessStream.Stream.Feed

/-!
# A run, record by record

What a run comes to depends on a source only through its records and on whether it fails
(`Pipeline.runFrom_eq_settleAll`): neither the pieces in which the input arrives nor the
interruptions matter. What a record adds to the progress of a run is `Progress.advance`; on a sink
whose writes and flushes succeed a run adds every record (`Pipeline.settleAll_of_isSound`).
-/

namespace AccessStream

namespace Source

/-- The records that can be read from a source. If it fails, what follows the last line feed is no
record, because its end never came. -/
def records (source : Source) : List Bytes :=
  if source.fails then endedRecords source.toBytes else AccessStream.records source.toBytes

theorem records_of_line {source left : Source} {line rest : Bytes} (h : lineFeed ∉ line)
    (cut : source.toBytes = line ++ lineFeed :: rest) (leaves : left.toBytes = rest)
    (same : left.fails = source.fails) : source.records = line :: left.records := by
  rw [records, records, cut, same, leaves, records_line h, endedRecords_line h]
  split_ifs <;> rfl

theorem records_of_fails {source : Source} (h : lineFeed ∉ source.toBytes)
    (fails : source.fails = true) : source.records = [] := by
  rw [records, if_pos fails, endedRecords_of_no_line h]

theorem records_of_toBytes_eq_nil {source : Source} (fails : source.fails = false)
    (done : source.toBytes = []) : source.records = [] := by
  rw [records, if_neg (by simp [fails]), done, records_nil]

theorem records_of_last {source : Source} (h : lineFeed ∉ source.toBytes)
    (fails : source.fails = false) (some : source.toBytes ≠ []) :
    source.records = [source.toBytes] := by
  rw [records, if_neg (by simp [fails]), AccessStream.records_of_no_line h some]

end Source

namespace Pipeline

/-- The rest of a run in which the given frames are still to come, and after them the end of the
input or the failure of the source. -/
def settleAll (pipeline : Pipeline) (fails : Bool) (progress : Progress) :
    List Frame → StreamRun
  | [] => if fails then fail .read progress.flush.2 else finish progress
  | frame :: frames =>
    match pipeline.settle ⟨[], false⟩ progress frame with
    | .next _ progress => pipeline.settleAll fails progress frames
    | .stop run => run

/-- A record that is read is settled, and the run goes on with what the source does next. -/
theorem runFrom_of_next (pipeline : Pipeline) {source left : Source} {fails : Bool} {frame : Frame}
    {frames : List Frame}
    (read : source.next pipeline.options.maxRecordBytes = (.record frame, left))
    (rest : ∀ progress, pipeline.runFrom left progress = pipeline.settleAll fails progress frames)
    (progress : Progress) :
    pipeline.runFrom source progress = pipeline.settleAll fails progress (frame :: frames) := by
  rw [runFrom_eq, turn, read, settleAll]
  simp only
  rw [settle_eq]
  cases pipeline.settle ⟨[], false⟩ progress frame with
  | next _ progress => exact rest progress
  | stop run => rfl

/-- A run takes one record after the other. The induction is on what the source hands out, which
each record and its line feed shorten. -/
theorem runFrom_eq_settleAll (pipeline : Pipeline) (source : Source) (progress : Progress) :
    pipeline.runFrom source progress =
      pipeline.settleAll source.fails progress
        (source.records.map (Frame.ofRecord pipeline.options.maxRecordBytes)) := by
  induction size : source.toBytes.length using Nat.strongRecOn generalizing source progress with
  | ind size ih =>
    subst size
    by_cases found : lineFeed ∈ source.toBytes
    · obtain ⟨line, rest, cut, noFeed⟩ := List.eq_append_cons_of_mem found
      obtain ⟨left, read, leaves⟩ :=
        Source.next_of_line pipeline.options.maxRecordBytes noFeed cut
      rw [Source.records_of_line noFeed cut leaves rfl, List.map_cons]
      refine pipeline.runFrom_of_next read (fun progress => ?_) progress
      refine ih _ ?_ ⟨left, source.fails⟩ progress rfl
      rw [leaves, cut, List.length_append, List.length_cons]
      omega
    · have read := Source.next_of_no_line pipeline.options.maxRecordBytes found
      cases fails : source.fails with
      | true =>
        rw [Source.records_of_fails found fails, runFrom_eq, turn, read, fails]
        rfl
      | false =>
        by_cases done : source.toBytes = []
        · rw [Source.records_of_toBytes_eq_nil fails done, runFrom_eq, turn, read, fails, done]
          rfl
        · rw [Source.records_of_last found fails done, List.map_cons, List.map_nil]
          rw [fails, if_neg Bool.false_ne_true, if_neg done] at read
          refine pipeline.runFrom_of_next read (fun progress => ?_) progress
          rw [runFrom_eq, turn, Source.next, Source.nextFrom]
          rfl

end Pipeline

/-! ## What a record adds -/

namespace Progress

/-- The progress after a record that came out as given, with its line written if it has one. -/
def advance (mode : FlushMode) (progress : Progress) (outcome : RecordOutcome) : Progress :=
  match outcome.line? with
  | none => progress.note outcome
  | some decision => ((progress.note outcome).writeLine mode decision).2

theorem writeLine_of_isSound {progress : Progress} (sound : progress.sink.IsSound)
    (mode : FlushMode) (decision : Decision) :
    (progress.writeLine mode decision).1 = true ∧
      (progress.writeLine mode decision).2.sink.IsSound ∧
      (progress.writeLine mode decision).2.sink.taken = progress.sink.taken ++ decision.line := by
  have written : ({ progress.sink with taken := progress.sink.taken ++ decision.line }).IsSound :=
    sound
  simp only [writeLine, Sink.write_of_isSound sound, Bool.true_and, decide_eq_true_eq]
  split_ifs
  · rw [flush, Sink.flush_of_isSound written]
    exact ⟨rfl, sound, rfl⟩
  · exact ⟨rfl, sound, rfl⟩

theorem stats_writeLine (mode : FlushMode) (progress : Progress) (decision : Decision) :
    (progress.writeLine mode decision).2.stats = progress.stats := by
  simp only [writeLine]
  split_ifs <;> rfl

theorem stats_advance (mode : FlushMode) (progress : Progress) (outcome : RecordOutcome) :
    (progress.advance mode outcome).stats = progress.stats.add outcome := by
  rw [advance]
  cases outcome.line? with
  | none => rfl
  | some decision => rw [stats_writeLine]; rfl

theorem isSound_advance {progress : Progress} (sound : progress.sink.IsSound) (mode : FlushMode)
    (outcome : RecordOutcome) : (progress.advance mode outcome).sink.IsSound := by
  rw [advance]
  cases outcome.line? with
  | none => exact sound
  | some decision =>
    have noted : (progress.note outcome).sink.IsSound := sound
    exact (writeLine_of_isSound noted mode decision).2.1

/-- The bytes that are written for a record. -/
theorem taken_advance {progress : Progress} (sound : progress.sink.IsSound) (mode : FlushMode)
    (outcome : RecordOutcome) :
    (progress.advance mode outcome).sink.taken.toList =
      progress.sink.taken.toList ++ outcome.line?.elim [] Decision.line := by
  rw [advance]
  cases outcome.line? with
  | none => simp [note]
  | some decision =>
    have noted : (progress.note outcome).sink.IsSound := sound
    rw [Option.elim_some]
    simp only [(writeLine_of_isSound noted mode decision).2.2, Array.toList_appendList]
    rfl

end Progress

namespace Pipeline

theorem settle_of_isSound {progress : Progress} (sound : progress.sink.IsSound)
    (pipeline : Pipeline) (source : Source) (frame : Frame) :
    pipeline.settle source progress frame =
      .next source (progress.advance pipeline.options.flush (pipeline.judge frame)) := by
  simp only [settle, Progress.advance]
  cases RecordOutcome.line? (pipeline.judge frame) with
  | none => rfl
  | some decision =>
    have noted : (progress.note (pipeline.judge frame)).sink.IsSound := sound
    have written := (Progress.writeLine_of_isSound noted pipeline.options.flush decision).1
    simp only
    rw [← Prod.eta (Progress.writeLine _ _ _), written]

theorem finish_of_isSound {progress : Progress} (sound : progress.sink.IsSound) :
    (finish progress).result = .ok progress.stats ∧
      (finish progress).sink.taken = progress.sink.taken := by
  rw [finish, Progress.flush, Sink.flush_of_isSound sound]
  exact ⟨rfl, rfl⟩

/-- On a sink whose writes and flushes succeed, a run adds every record to its progress. -/
theorem settleAll_of_isSound (pipeline : Pipeline) (fails : Bool) {progress : Progress}
    (sound : progress.sink.IsSound) (frames : List Frame) :
    pipeline.settleAll fails progress frames =
      let final := (frames.map pipeline.judge).foldl
        (Progress.advance pipeline.options.flush) progress
      if fails then fail .read final.flush.2 else finish final := by
  induction frames generalizing progress with
  | nil => rfl
  | cons frame frames ih =>
    rw [settleAll, settle_of_isSound sound]
    exact ih (Progress.isSound_advance sound pipeline.options.flush _)

end Pipeline

namespace Progress

variable (mode : FlushMode) (progress : Progress) (outcomes : List RecordOutcome)

theorem stats_foldl_advance :
    (outcomes.foldl (advance mode) progress).stats = outcomes.foldl StreamStats.add
      progress.stats := by
  induction outcomes generalizing progress with
  | nil => rfl
  | cons outcome outcomes ih => rw [List.foldl_cons, List.foldl_cons, ih, stats_advance]

theorem isSound_foldl_advance (sound : progress.sink.IsSound) :
    (outcomes.foldl (advance mode) progress).sink.IsSound := by
  induction outcomes generalizing progress with
  | nil => exact sound
  | cons outcome outcomes ih => exact ih _ (isSound_advance sound mode outcome)

/-- The bytes that are written for some records are their lines, one after the other. -/
theorem taken_foldl_advance (sound : progress.sink.IsSound) :
    (outcomes.foldl (advance mode) progress).sink.taken.toList =
      progress.sink.taken.toList ++
        outcomes.flatMap fun outcome => outcome.line?.elim [] Decision.line := by
  induction outcomes generalizing progress with
  | nil => simp
  | cons outcome outcomes ih =>
    rw [List.foldl_cons, ih _ (isSound_advance sound mode outcome), taken_advance sound,
      List.flatMap_cons, List.append_assoc]

end Progress

end AccessStream

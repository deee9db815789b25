import AccessStream.Proofs.Stream.Emission

/-!
# What a run reports

A run reports its records by their numbers, each as it came out, and at the end of the input its
counts (`Pipeline.events_run_of_isSound`). For an input of one record that fits the limit this comes
to what the record comes to by itself (`Pipeline.run_alone`).
-/

namespace AccessStream

/-- The reports on records that came out as given, after so many others. -/
def eventsAfter (count : Nat) : List RecordOutcome → List StreamEvent
  | [] => []
  | outcome :: outcomes =>
    (StreamEvent.ofOutcome? (count + 1) outcome).toList ++ eventsAfter (count + 1) outcomes

theorem StreamStats.records_add (stats : StreamStats) (outcome : RecordOutcome) :
    (stats.add outcome).records = stats.records + 1 := by
  match outcome with
  | .ok none => rfl
  | .ok (some .authorized) => rfl
  | .ok (some .unauthorized) => rfl
  | .error _ => rfl

namespace Progress

variable (mode : FlushMode) (progress : Progress)

theorem events_writeLine (decision : Decision) :
    (progress.writeLine mode decision).2.events = progress.events := by
  rw [writeLine_eq]

/-- A record is reported by its number, which is one more than that of the records before it. -/
theorem events_advance (outcome : RecordOutcome) :
    (progress.advance mode outcome).events.toList = progress.events.toList ++
      (StreamEvent.ofOutcome? (progress.stats.records + 1) outcome).toList := by
  have noted : (progress.note outcome).events.toList = progress.events.toList ++
      (StreamEvent.ofOutcome? (progress.stats.records + 1) outcome).toList := by
    simp only [note, StreamStats.records_add, Array.toList_appendList]
  rw [advance]
  cases outcome.line? with
  | none => exact noted
  | some decision =>
    simp only [events_writeLine]
    exact noted

theorem events_foldl_advance (outcomes : List RecordOutcome) :
    (outcomes.foldl (advance mode) progress).events.toList =
      progress.events.toList ++ eventsAfter progress.stats.records outcomes := by
  induction outcomes generalizing progress with
  | nil => rw [List.foldl_nil, eventsAfter, List.append_nil]
  | cons outcome outcomes ih =>
    rw [List.foldl_cons, ih, events_advance, stats_advance, StreamStats.records_add,
      List.append_assoc, eventsAfter]

end Progress

namespace Pipeline

variable (pipeline : Pipeline)

theorem events_finish {progress : Progress} (sound : progress.sink.IsSound) :
    (finish progress).events.toList = progress.events.toList ++ [.ended progress.stats] := by
  rw [finish, Progress.flush, Sink.flush_of_isSound sound]
  exact Array.toList_push

/-- The reports of a run to a sink that never fails: those on the records, and that of the end
unless the source fails. -/
theorem events_run_of_isSound (source : Source) {sink : Sink} (sound : sink.IsSound) :
    (pipeline.run source sink).events.toList =
      eventsAfter 0 (source.records.map pipeline.outcome) ++
        if source.fails then [] else [.ended (Verdict.stats (source.records.map pipeline.verdict))] := by
  have start : ({ sink } : Progress).sink.IsSound := sound
  have judged : (source.records.map (Frame.ofRecord pipeline.options.maxRecordBytes)).map
      pipeline.judge = source.records.map pipeline.outcome := by
    rw [List.map_map]
    rfl
  rw [run_eq_settleAll, settleAll_of_isSound pipeline _ start, judged]
  simp only
  -- What is reported depends on the course up to here; only the report of the end is still to come.
  have events := Progress.events_foldl_advance pipeline.options.flush { sink }
    (source.records.map pipeline.outcome)
  split_ifs
  · rw [List.append_nil]
    exact events
  · rw [events_finish (Progress.isSound_foldl_advance _ _ _ start), events,
      Progress.stats_foldl_advance, ← foldl_add_outcome]
    rfl

/-- A run on a single record that fits the limit, with or without a line feed behind it, comes to
what the record comes to. -/
theorem run_alone {record : Bytes} (nonempty : record ≠ []) (noFeed : lineFeed ∉ record)
    (fits : record.length ≤ pipeline.options.maxRecordBytes) {reads : List Read}
    (alone : reads.flatMap Read.toBytes = record ∨
      reads.flatMap Read.toBytes = record ++ [lineFeed]) :
    let outcome := pipeline.decideRecord record
    let run := pipeline.run { reads, fails := false } {}
    run.result = .ok (StreamStats.add {} outcome) ∧
      run.sink.taken.toList = outcome.line?.elim [] Decision.line ∧
      run.events.toList =
        (StreamEvent.ofOutcome? 1 outcome).toList ++ [.ended (StreamStats.add {} outcome)] := by
  intro outcome run
  have single : records (reads.flatMap Read.toBytes) = [record] := by
    have whole : ∀ line ∈ [record], lineFeed ∉ line ∧ line ≠ [] := by
      intro line among
      obtain rfl := List.mem_singleton.1 among
      exact ⟨noFeed, nonempty⟩
    apply records_of_lines whole
    rw [List.flatMap_singleton]
    rcases alone with unended | ended
    · exact .inr (by rw [unended])
    · exact .inl ended
  have judged : pipeline.outcome record = outcome := by
    rw [Pipeline.outcome, Frame.ofRecord, if_pos fits]
    rfl
  have counted : Verdict.stats [pipeline.verdict record] = StreamStats.add {} outcome := by
    have one := pipeline.foldl_add_outcome [record]
    rw [List.map_singleton, List.map_singleton, judged] at one
    exact one.symm
  have sound : ({} : Sink).IsSound := ⟨rfl, rfl⟩
  obtain ⟨result, taken⟩ := pipeline.run_of_no_failure reads
  have events := pipeline.events_run_of_isSound { reads, fails := false } sound
  rw [single] at result taken
  rw [Source.records, if_neg Bool.false_ne_true, if_neg Bool.false_ne_true, Source.toBytes, single]
    at events
  refine ⟨?_, ?_, ?_⟩
  · rw [← counted]
    exact result
  · rw [← judged, ← line_verdict]
    rw [List.map_singleton, List.flatMap_singleton] at taken
    exact taken
  · rw [List.map_singleton, List.map_singleton, counted, judged, eventsAfter, eventsAfter,
      List.append_nil] at events
    exact events

end Pipeline

end AccessStream

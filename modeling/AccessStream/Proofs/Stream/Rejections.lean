import AccessStream.Command.Report
import AccessStream.Proofs.Record
import AccessStream.Proofs.Stream.Events

/-!
# Which records a run warns of

A decision says nothing about why it came out so; that a record was refused is told by a warning
alone. What a record is refused for depends on the record and the limit only (`Record.rejection?`),
and its warning bears the number that it has among all records, blank ones included. A run that ends
well has warned of every such record once, in the order of the input
(`Pipeline.warnings_of_ended`). The invariant of the induction is that the warnings so far are those
of the records so far, and that as many records are counted.
-/

namespace AccessStream

/-- What a record is refused for under a limit, if it is. A record past the limit is not decoded. -/
def Record.rejection? (limit : Nat) (record : Bytes) : Option RecordError :=
  if limit < record.length then
    if record.all asciiBlanks.contains then none else some (.oversized limit)
  else match Record.decode record with
    | .error error => some error
    | .ok _ => none

/-- The records that are refused, by their numbers, which are counted from a start. -/
def rejectionsFrom (limit start : Nat) (records : List Bytes) : List (Nat × RecordError) :=
  (records.zipIdx start).filterMap fun entry =>
    (Record.rejection? limit entry.1).map (Prod.mk entry.2)

/-- The warning of a record that is refused, with what the JSON reader says of it. -/
def warningOf (details : Bytes → String) (rejection : Nat × RecordError) : Log.Entry :=
  .ofEvent details (.rejected rejection.1 rejection.2)

/-- The warnings among some entries. -/
def warnings (entries : List Log.Entry) : List Log.Entry :=
  entries.filter fun entry => entry.level = .warn

/-! ## One record -/

section Record

variable {limit : Nat} {record : Bytes} {error : RecordError}

theorem Record.rejection?_of_long (long : limit < record.length)
    (h : rejection? limit record = some error) : error = .oversized limit := by
  rw [rejection?, if_pos long] at h
  split_ifs at h
  exact (Option.some.inj h).symm

theorem Record.decode_of_rejection? (fits : record.length ≤ limit)
    (h : rejection? limit record = some error) : decode record = .error error := by
  rw [rejection?, if_neg (Nat.not_lt.2 fits)] at h
  cases decoded : decode record with
  | ok set =>
    rw [decoded] at h
    cases h
  | error other =>
    rw [decoded] at h
    exact congrArg Except.error (Option.some.inj h)

/-- Decoding finds no fault of its own with the length of a record. -/
theorem Record.kind_ne_oversized_of_decode (h : decode record = .error error) :
    error.kind ≠ "oversized" := by
  rw [decode] at h
  split_ifs at h
  cases read : Json.readObject record with
  | ok members =>
    rw [read] at h
    cases h
  | error fault =>
    rw [read] at h
    cases h
    cases fault <;> simp [RecordError.kind]

/-- A record that is refused is refused as oversized exactly if it is longer than the limit. -/
theorem Record.kind_eq_oversized_iff (h : rejection? limit record = some error) :
    error.kind = "oversized" ↔ limit < record.length := by
  constructor
  · intro named
    by_contra fits
    exact kind_ne_oversized_of_decode (decode_of_rejection? (Nat.not_lt.1 fits) h) named
  · intro long
    rw [rejection?_of_long long h]
    rfl

namespace Pipeline

variable (pipeline : Pipeline) (details : Bytes → String)

/-- The outcome of a record is an error exactly if the record is refused for it. -/
theorem outcome_eq_error_iff :
    pipeline.outcome record = .error error ↔
      Record.rejection? pipeline.options.maxRecordBytes record = some error := by
  have blank : Frame.isBlankByte = asciiBlanks.contains := funext isBlankByte_eq_contains
  rw [outcome, Frame.ofRecord, Record.rejection?, blank]
  by_cases fits : record.length ≤ pipeline.options.maxRecordBytes
  · rw [if_pos fits, if_neg (Nat.not_lt.2 fits), judge, decideRecord]
    cases Record.decode record with
    | error other => exact ⟨fun h => by cases h; rfl, fun h => by cases h; rfl⟩
    | ok set => constructor <;> rintro ⟨⟩
  · rw [if_neg fits, if_pos (Nat.lt_of_not_le fits)]
    cases record.all asciiBlanks.contains with
    | true => constructor <;> rintro ⟨⟩
    | false => exact ⟨fun h => by cases h; rfl, fun h => by cases h; rfl⟩

theorem verdict_eq_malformed_iff :
    pipeline.verdict record = .malformed ↔
      ∃ error, Record.rejection? pipeline.options.maxRecordBytes record = some error := by
  simp only [← outcome_eq_error_iff]
  rw [verdict_eq, ← outcome]
  rcases pipeline.outcome record with other | _ | decision
  · exact ⟨fun _ => ⟨other, rfl⟩, fun _ => rfl⟩
  · constructor
    · rintro ⟨⟩
    · rintro ⟨_, ⟨⟩⟩
  · constructor
    · rintro ⟨⟩
    · rintro ⟨_, ⟨⟩⟩

theorem isSome_rejection? :
    (Record.rejection? pipeline.options.maxRecordBytes record).isSome =
      (pipeline.verdict record == .malformed) := by
  rw [Bool.eq_iff_iff, beq_iff_eq, verdict_eq_malformed_iff, Option.isSome_iff_exists]

/-- The only warning of a record is that it is refused. -/
theorem warnings_ofOutcome? (number : Nat) :
    warnings ((StreamEvent.ofOutcome? number (pipeline.outcome record)).toList.map
        (.ofEvent details)) =
      ((Record.rejection? pipeline.options.maxRecordBytes record).map
        fun error => warningOf details (number, error)).toList := by
  cases refused : Record.rejection? pipeline.options.maxRecordBytes record with
  | some error =>
    rw [pipeline.outcome_eq_error_iff.2 refused]
    rfl
  | none =>
    rcases came : pipeline.outcome record with error | _ | decision
    · rw [outcome_eq_error_iff, refused] at came
      cases came
    · rfl
    · rfl

end Pipeline

end Record

/-! ## Many records -/

section Records

variable {limit start : Nat} {record : Bytes} {records : List Bytes}

theorem rejectionsFrom_cons :
    rejectionsFrom limit start (record :: records) =
      ((Record.rejection? limit record).map (Prod.mk start)).toList ++
        rejectionsFrom limit (start + 1) records := by
  rw [rejectionsFrom, List.zipIdx_cons, List.filterMap_cons, ← rejectionsFrom]
  cases Record.rejection? limit record <;> rfl

/-- A refusal is that of the record with its number. -/
theorem mem_rejectionsFrom_iff {number : Nat} {error : RecordError} :
    (number, error) ∈ rejectionsFrom limit start records ↔
      ∃ index record, number = start + index ∧ records[index]? = some record ∧
        Record.rejection? limit record = some error := by
  simp only [rejectionsFrom, List.mem_filterMap, Prod.exists,
    List.mk_mem_zipIdx_iff_le_and_getElem?_sub, Option.map_eq_some_iff, Prod.mk.injEq]
  constructor
  · rintro ⟨record, place, ⟨le, found⟩, other, refused, rfl, rfl⟩
    exact ⟨place - start, record, by omega, found, refused⟩
  · rintro ⟨index, record, rfl, found, refused⟩
    refine ⟨record, start + index, ⟨Nat.le_add_right _ _, ?_⟩, error, refused, rfl, rfl⟩
    rwa [Nat.add_sub_cancel_left]

/-- Refusals stand in the order of the records, no two with one number. -/
theorem pairwise_rejectionsFrom :
    (rejectionsFrom limit start records).Pairwise fun first second => first.1 < second.1 := by
  induction records generalizing start with
  | nil => exact List.Pairwise.nil
  | cons record records ih =>
    rw [rejectionsFrom_cons]
    cases Record.rejection? limit record with
    | none => exact ih
    | some error =>
      refine List.Pairwise.cons (fun other among => ?_) ih
      obtain ⟨index, -, later, -⟩ := mem_rejectionsFrom_iff.1 among
      rw [later]
      omega

namespace Pipeline

variable (pipeline : Pipeline)

/-- There are as many refusals as malformed records. -/
theorem length_rejectionsFrom :
    (rejectionsFrom pipeline.options.maxRecordBytes start records).length =
      (Verdict.stats (records.map pipeline.verdict)).malformed := by
  induction records generalizing start with
  | nil => rfl
  | cons record records ih =>
    have refused : (Record.rejection? pipeline.options.maxRecordBytes record).isSome =
        (pipeline.verdict record == .malformed) := pipeline.isSome_rejection?
    simp only [Verdict.stats, List.map_cons, List.count_cons, ← refused] at ih ⊢
    rw [rejectionsFrom_cons, List.length_append, ih]
    cases Record.rejection? pipeline.options.maxRecordBytes record with
    | none => exact Nat.zero_add _
    | some error => exact Nat.add_comm _ _

theorem warnings_eventsAfter (details : Bytes → String) (count : Nat) :
    warnings ((eventsAfter count (records.map pipeline.outcome)).map (.ofEvent details)) =
      (rejectionsFrom pipeline.options.maxRecordBytes (count + 1) records).map
        (warningOf details) := by
  induction records generalizing count with
  | nil => rfl
  | cons record records ih =>
    rw [List.map_cons, eventsAfter, List.map_append, warnings, List.filter_append, ← warnings,
      ← warnings, warnings_ofOutcome?, ih, rejectionsFrom_cons, List.map_append]
    cases Record.rejection? pipeline.options.maxRecordBytes record <;> rfl

end Pipeline

end Records

/-! ## Runs that end well -/

namespace Pipeline

variable (pipeline : Pipeline)

/-- A record is added to the progress of a run unless writing fails. -/
theorem settle_eq_advance_or_fail (source : Source) (progress : Progress) (frame : Frame) :
    pipeline.settle source progress frame =
        .next source (progress.advance pipeline.options.flush (pipeline.judge frame)) ∨
      ∃ final, pipeline.settle source progress frame = .stop (fail .write final) := by
  simp only [settle, Progress.advance]
  cases RecordOutcome.line? (pipeline.judge frame) with
  | none => exact .inl rfl
  | some decision =>
    simp only
    rcases (progress.note (pipeline.judge frame)).writeLine pipeline.options.flush decision with
      ⟨_ | _, final⟩
    · exact .inr ⟨final, rfl⟩
    · exact .inl rfl

theorem finish_of_ok {progress : Progress} {stats : StreamStats}
    (ended : (finish progress).result = .ok stats) :
    stats = progress.stats ∧
      (finish progress).events.toList = progress.events.toList ++ [.ended stats] := by
  rw [finish, Progress.flush] at ended ⊢
  cases flushed : progress.sink.flush.1 with
  | false =>
    simp only [flushed] at ended
    cases ended
  | true =>
    simp only [flushed] at ended ⊢
    cases ended
    exact ⟨rfl, Array.toList_push⟩

/-- A run that ends well has added all of its records to its progress. -/
theorem settleAll_of_ok {fails : Bool} {progress : Progress} {frames : List Frame}
    {stats : StreamStats} (ended : (pipeline.settleAll fails progress frames).result = .ok stats) :
    let final := (frames.map pipeline.judge).foldl
      (Progress.advance pipeline.options.flush) progress
    fails = false ∧ stats = final.stats ∧
      (pipeline.settleAll fails progress frames).events.toList =
        final.events.toList ++ [.ended stats] := by
  induction frames generalizing progress with
  | nil =>
    cases fails with
    | true => cases ended
    | false => exact ⟨rfl, finish_of_ok ended⟩
  | cons frame frames ih =>
    rw [settleAll] at ended ⊢
    rcases pipeline.settle_eq_advance_or_fail ⟨[], false⟩ progress frame with next | ⟨final, stop⟩
    · rw [next] at ended ⊢
      exact ih ended
    · rw [stop] at ended
      cases ended

variable (details : Bytes → String) {source : Source} {sink : Sink} {stats : StreamStats}

/-- What a run that ends well has counted and reported. -/
theorem run_of_ended (ended : (pipeline.run source sink).result = .ok stats) :
    let input := records source.toBytes
    stats = Verdict.stats (input.map pipeline.verdict) ∧
      (pipeline.run source sink).events.toList =
        eventsAfter 0 (input.map pipeline.outcome) ++ [.ended stats] := by
  intro input
  rw [run_eq_settleAll] at ended ⊢
  obtain ⟨sound, counted, events⟩ := pipeline.settleAll_of_ok ended
  have read : source.records = input := by
    rw [Source.records, sound, if_neg Bool.false_ne_true]
  have judged : (source.records.map (Frame.ofRecord pipeline.options.maxRecordBytes)).map
      pipeline.judge = input.map pipeline.outcome := by
    rw [List.map_map, read]
    rfl
  rw [judged, Progress.stats_foldl_advance, foldl_add_outcome] at counted
  rw [judged, Progress.events_foldl_advance] at events
  exact ⟨counted, events⟩

/-- The warnings of a run that ends well are those of the records that are refused. -/
theorem warnings_of_ended (ended : (pipeline.run source sink).result = .ok stats) :
    warnings (Command.streamEntries details (pipeline.run source sink)) =
      (rejectionsFrom pipeline.options.maxRecordBytes 1 (records source.toBytes)).map
        (warningOf details) := by
  have events := (pipeline.run_of_ended ended).2
  rw [Command.streamEntries, ended, events, List.map_append, warnings, List.filter_append,
    List.filter_append, ← warnings, warnings_eventsAfter]
  exact (List.append_nil _).trans (List.append_nil _)

theorem getLast?_streamEntries_of_ended (ended : (pipeline.run source sink).result = .ok stats) :
    (Command.streamEntries details (pipeline.run source sink)).getLast? =
      some (.ofStats stats) := by
  rw [Command.streamEntries, ended]
  exact List.getLast?_concat

end Pipeline

end AccessStream

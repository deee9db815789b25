import AccessStream.Proofs.Stream.Emission

/-!
# Runs that fail

A source may fail for good after some of its bytes, and a sink may fail to take a line or to flush.
What was decided by then is in the output, and nothing else is: when the source fails, the lines of
all records that were ended (`Pipeline.run_of_read_failure`); when the sink fails, a beginning of
these lines, and which of the failures comes first decides the result (`Pipeline.run_of_failures`).
At every moment at which a run is about to read, what it has read so far is written already
(`Pipeline.AboutToRead`).
-/

namespace AccessStream

/-- The records that are ended within a part of an input are the first of its records, as many as
the part has line feeds. -/
theorem endedRecords_eq_take (given unread : Bytes) :
    endedRecords given = (records (given ++ unread)).take (given.count lineFeed) := by
  induction size : given.length using Nat.strongRecOn generalizing given with
  | ind size ih =>
    subst size
    by_cases found : lineFeed ∈ given
    · obtain ⟨line, rest, rfl, noFeed⟩ := List.eq_append_cons_of_mem found
      have shorter : rest.length < (line ++ lineFeed :: rest).length := by
        rw [List.length_append, List.length_cons]
        omega
      have feeds : (line ++ lineFeed :: rest).count lineFeed = rest.count lineFeed + 1 := by
        rw [List.count_append, List.count_eq_zero.2 noFeed, List.count_cons_self, Nat.zero_add]
      rw [endedRecords_line noFeed, feeds, List.append_assoc, List.cons_append,
        records_line noFeed, List.take_succ_cons, ih _ shorter rest rfl]
    · rw [endedRecords_of_no_line found, List.count_eq_zero.2 found, List.take_zero]

namespace Source

variable {source : Source} {input : Bytes}

theorem records_of_not_fails (h : source.fails = false) :
    source.records = AccessStream.records source.toBytes := by
  rw [records, if_neg (by simp [h])]

/-- The records that can be read from a source that fails after some bytes of an input are the first
ones of the input, as many as are ended within these bytes. -/
theorem records_of_take {k : Nat} (h : source.fails = true)
    (bytes : source.toBytes = input.take k) :
    source.records = (AccessStream.records input).take ((input.take k).count lineFeed) := by
  rw [records, if_pos h, bytes, endedRecords_eq_take (input.take k) (input.drop k),
    List.take_append_drop]

end Source

namespace Pipeline

variable {pipeline : Pipeline} {source left further : Source} {sink : Sink}
  {progress progress' : Progress}

/-- The moments of a run at which it is about to read a record: what the source does from there on,
and how far the run has come. -/
inductive AboutToRead (pipeline : Pipeline) (source : Source) (sink : Sink) :
    Source → Progress → Prop where
  | start : AboutToRead pipeline source sink source { sink }
  | turn {left further : Source} {progress progress' : Progress} :
      AboutToRead pipeline source sink left progress →
      pipeline.turn left progress = .next further progress' →
      AboutToRead pipeline source sink further progress'

/-- From each of these moments on, the run goes on as if it began there. -/
theorem run_eq_runFrom (h : pipeline.AboutToRead source sink left progress) :
    pipeline.run source sink = pipeline.runFrom left progress := by
  induction h with
  | start => rfl
  | turn _ step ih => rw [ih, runFrom_eq, step]

theorem settle_of_passes {record : Bytes}
    (h : progress.sink.Passes pipeline.options.flush (pipeline.lines [record])) (source : Source) :
    ∃ further, pipeline.settle source progress
        (Frame.ofRecord pipeline.options.maxRecordBytes record) = .next source further ∧
      further.sink = progress.sink.pass pipeline.options.flush (pipeline.lines [record]) := by
  cases line : (pipeline.outcome record).line? with
  | none =>
    have no_lines : pipeline.lines [record] = [] := pipeline.lines_cons_of_none line []
    refine ⟨_, pipeline.settle_of_none progress source line, ?_⟩
    rw [no_lines, Sink.pass_nil]
    rfl
  | some decision =>
    have one_line : pipeline.lines [record] = [decision.line] :=
      pipeline.lines_cons_of_some line []
    rw [one_line] at h ⊢
    have settled := pipeline.settle_of_some progress source line
    simp only [Sink.emit_of_passes h] at settled
    exact ⟨_, settled, rfl⟩

/-- One turn of a run whose source is bound to fail and whose sink is not: it takes a record with
its line feed from the source, and the sink takes the line of the record. -/
theorem turn_of_fails (fails : left.fails = true) (sound : progress.sink.IsSound)
    (step : pipeline.turn left progress = .next further progress') :
    further.fails = true ∧ ∃ record, lineFeed ∉ record ∧
      left.toBytes = record ++ lineFeed :: further.toBytes ∧
      progress'.sink = progress.sink.pass pipeline.options.flush (pipeline.lines [record]) := by
  by_cases found : lineFeed ∈ left.toBytes
  · obtain ⟨record, rest, cut, noFeed⟩ := List.eq_append_cons_of_mem found
    obtain ⟨reads, read, leaves⟩ := Source.next_of_line pipeline.options.maxRecordBytes noFeed cut
    have passes : progress.sink.Passes pipeline.options.flush (pipeline.lines [record]) :=
      Sink.passes_of_isSound sound
    obtain ⟨settled, settle, passed⟩ := settle_of_passes passes ⟨reads, left.fails⟩
    rw [turn, read] at step
    simp only [settle, Turn.next.injEq] at step
    obtain ⟨rfl, rfl⟩ := step
    refine ⟨fails, record, noFeed, ?_, passed⟩
    rw [cut, leaves]
  · have read := Source.next_of_no_line pipeline.options.maxRecordBytes found
    rw [turn, read, if_pos fails] at step
    cases step

/-- Whenever a run is about to read, the records that it has taken from the source are written and
flushed, and it has taken nothing else. -/
theorem aboutToRead_of_fails (fails : source.fails = true) (sound : sink.IsSound)
    (h : pipeline.AboutToRead source sink left progress) :
    left.fails = true ∧ ∃ seen : List Bytes, (∀ record ∈ seen, lineFeed ∉ record) ∧
      source.toBytes = seen.flatMap (· ++ [lineFeed]) ++ left.toBytes ∧
      progress.sink = sink.pass pipeline.options.flush (pipeline.lines seen) := by
  induction h with
  | start => exact ⟨fails, [], by simp, by simp, Sink.pass_nil.symm⟩
  | @turn left further progress progress' _ step ih =>
    obtain ⟨fails', seen, noFeed, bytes, passed⟩ := ih
    have sound' : progress.sink.IsSound := by
      rw [passed]
      exact sound
    obtain ⟨fails'', record, noFeed', cut, passed'⟩ := turn_of_fails fails' sound' step
    refine ⟨fails'', seen ++ [record], ?_, ?_, ?_⟩
    · intro other h
      rcases List.mem_append.1 h with h | h
      · exact noFeed other h
      · rwa [List.mem_singleton.1 h]
    · rw [bytes, cut]
      simp
    · rw [passed', passed, Sink.pass_pass, lines_append]

/-- A run from a source that fails after some bytes ends with this failure. Its output is what a run
over the whole input writes for the records that are ended within these bytes, flushed to its end;
and if every line is to be flushed, each was so at its end, before the next record was read. -/
theorem run_of_read_failure (pipeline : Pipeline) {input : Bytes} {k : Nat}
    {reads whole : List Read} (given : reads.flatMap Read.toBytes = input.take k)
    (all : whole.flatMap Read.toBytes = input) :
    let source : Source := { reads, fails := true }
    let run := pipeline.run source {}
    let ended := (input.take k).count lineFeed
    let lines := pipeline.lines ((records input).take ended)
    let later := pipeline.lines ((records input).drop ended)
    let flushed := fun lines : List Bytes =>
      if pipeline.options.flush = .everyRecord then (lineEnds 0 lines).map (FlushCall.mk · true)
      else []
    run.result = .error .read ∧
      run.sink.taken.toList = lines.flatten ∧
      (pipeline.run { reads := whole, fails := false } {}).sink.taken.toList =
        lines.flatten ++ later.flatten ∧
      run.sink.flushes.toList = flushed lines ++ [⟨run.sink.taken.size, true⟩] ∧
      ∀ left progress, pipeline.AboutToRead source {} left progress →
        run = pipeline.runFrom left progress ∧
        ∃ seen : List Bytes, (∀ record ∈ seen, lineFeed ∉ record) ∧
          input.take k = seen.flatMap (· ++ [lineFeed]) ++ left.toBytes ∧
          progress.sink.taken.toList = (pipeline.lines seen).flatten ∧
          progress.sink.flushes.toList = flushed (pipeline.lines seen) := by
  intro source run ended lines later flushed
  have sound : ({} : Sink).IsSound := ⟨rfl, rfl⟩
  have bytes : source.toBytes = input.take k := given
  have readable : source.records = (records input).take ended := Source.records_of_take rfl bytes
  have passed : ∀ lines : List Bytes,
      (({} : Sink).pass pipeline.options.flush lines).taken.toList = lines.flatten ∧
      (({} : Sink).pass pipeline.options.flush lines).flushes.toList = flushed lines := by
    intro lines
    simp [Sink.pass, flushed]
  obtain ⟨sink_eq, result⟩ := pipeline.run_of_isSound source sound
  rw [readable] at sink_eq result
  refine ⟨result, ?_, ?_, ?_, ?_⟩
  · simp only [run, sink_eq]
    exact (passed _).1
  · rw [taken_run_of_reads, all, ← List.flatten_append, ← lines_append, List.take_append_drop]
  · simp only [run, sink_eq, Array.toList_push, (passed _).2]
    rfl
  · intro left progress h
    obtain ⟨-, seen, noFeed, cut, progress_eq⟩ := aboutToRead_of_fails rfl sound h
    refine ⟨run_eq_runFrom h, seen, noFeed, ?_, ?_, ?_⟩
    · rw [← cut, bytes]
    · rw [progress_eq]
      exact (passed _).1
    · rw [progress_eq]
      exact (passed _).2

/-- The failure of a source at the very end of its input keeps the last record, complete as it is,
from being decided. -/
theorem run_of_read_failure_at_end :
    let pipeline : Pipeline := { evaluator := .ofPolicy .standard }
    let input : Bytes := [0x78, 0x0A, 0x7B, 0x7D]
    let reads : List Read := [.bytes 0x78 [0x0A, 0x7B], .interrupted, .bytes 0x7D []]
    let whole : List Read := [.bytes 0x78 [0x0A, 0x7B, 0x7D]]
    reads.flatMap Read.toBytes = input.take 4 ∧ whole.flatMap Read.toBytes = input ∧
      (pipeline.run { reads, fails := true } {}).result = .error .read ∧
      (pipeline.run { reads, fails := true } {}).sink.taken.toList =
        Utf8.encode "unauthorized\n" := by
  intro pipeline input reads whole
  have given : reads.flatMap Read.toBytes = input.take 4 := rfl
  have all : whole.flatMap Read.toBytes = input := rfl
  obtain ⟨result, taken, -⟩ := run_of_read_failure pipeline given all
  refine ⟨given, all, result, ?_⟩
  rw [taken]
  decide +kernel

/-! ## Sinks that fail -/

/-- All lines come through, and the flush at the end of the run is the first operation that
fails. -/
structure LastFlushFails (mode : FlushMode) (sink : Sink) (lines : List Bytes) : Prop where
  before : sink.Passes mode lines
  bound : sink.failingFlush = some ((sink.pass mode lines).flushes.size + 1)

variable (pipeline : Pipeline) (source : Source) {i : Nat}

theorem run_of_passes (h : sink.Passes pipeline.options.flush (pipeline.lines source.records)) :
    (pipeline.run source sink).sink.taken =
        sink.taken ++ (pipeline.lines source.records).flatten ∧
      (LastFlushFails pipeline.options.flush sink (pipeline.lines source.records) →
        (pipeline.run source sink).result = .error (if source.fails then .read else .write)) ∧
      (¬ LastFlushFails pipeline.options.flush sink (pipeline.lines source.records) →
        (pipeline.run source sink).result = if source.fails then .error .read
          else .ok (Verdict.stats (source.records.map pipeline.verdict))) := by
  have emitted := Sink.emitAll_of_passes h
  refine ⟨?_, fun last => ?_, fun last => ?_⟩
  · simp only [sink_run, emitted, ↓reduceIte]
    rfl
  · have flush : (sink.pass pipeline.options.flush (pipeline.lines source.records)).flush.1 =
        false := by
      simpa [Sink.flush] using! last.bound
    rw [result_run, emitted]
    simp only [resultAfter, flush]
    cases source.fails <;> rfl
  · have flush : (sink.pass pipeline.options.flush (pipeline.lines source.records)).flush.1 =
        true := by
      simpa [Sink.flush] using! fun bound => last ⟨h, bound⟩
    rw [result_run, emitted]
    simp only [resultAfter, flush]
    cases source.fails <;> rfl

theorem run_of_writeFailsAt
    (h : sink.WriteFailsAt pipeline.options.flush (pipeline.lines source.records) i) :
    (pipeline.run source sink).result = .error .write ∧ ∃ room, sink.room = some room ∧
      room < sink.taken.size + ((pipeline.lines source.records).take (i + 1)).flatten.length ∧
      (pipeline.run source sink).sink.taken = sink.taken ++
        (pipeline.lines source.records).flatten.take (room - sink.taken.size) := by
  obtain ⟨room, limited, short⟩ : ∃ room, sink.room = some room ∧
      room < sink.taken.size + ((pipeline.lines source.records).take (i + 1)).flatten.length := by
    have short := h.short
    simp only [Sink.Fits, not_forall, Nat.not_le] at short
    obtain ⟨room, limited, short⟩ := short
    exact ⟨room, limited, short⟩
  have emitted := Sink.emitAll_of_writeFailsAt h limited
  refine ⟨?_, room, limited, short, ?_⟩
  · rw [result_run, emitted]
    rfl
  · rw [sink_run, emitted]
    rfl

theorem run_of_flushFailsAt
    (h : sink.FlushFailsAt pipeline.options.flush (pipeline.lines source.records) i) :
    (pipeline.run source sink).result = .error .write ∧
      (pipeline.run source sink).sink.taken =
        sink.taken ++ ((pipeline.lines source.records).take (i + 1)).flatten := by
  obtain ⟨stopped, taken, -⟩ := Sink.emitAll_of_flushFailsAt h
  constructor
  · rw [result_run, resultAfter, stopped]
    rfl
  · simp only [sink_run, stopped, Bool.false_eq_true, ↓reduceIte]
    exact taken

section Result

variable (reached : sink.Fits [])
include reached

theorem result_run_eq_write_iff :
    (pipeline.run source sink).result = .error .write ↔
      (∃ i, sink.WriteFailsAt pipeline.options.flush (pipeline.lines source.records) i) ∨
      (∃ i, sink.FlushFailsAt pipeline.options.flush (pipeline.lines source.records) i) ∨
      source.fails = false ∧
        LastFlushFails pipeline.options.flush sink (pipeline.lines source.records) := by
  constructor
  · intro failed
    rcases Sink.passes_or_fails pipeline.options.flush sink reached
      (pipeline.lines source.records) with h | h | h
    · obtain ⟨-, failing, flushing⟩ := pipeline.run_of_passes source h
      by_cases last : LastFlushFails pipeline.options.flush sink (pipeline.lines source.records)
      · rw [failing last] at failed
        cases fails : source.fails with
        | false => exact Or.inr (Or.inr ⟨rfl, last⟩)
        | true => simp [fails] at failed
      · rw [flushing last] at failed
        cases fails : source.fails <;> simp [fails] at failed
    · exact Or.inl h
    · exact Or.inr (Or.inl h)
  · rintro (⟨i, h⟩ | ⟨i, h⟩ | ⟨fails, last⟩)
    · exact (pipeline.run_of_writeFailsAt source h).1
    · exact (pipeline.run_of_flushFailsAt source h).1
    · rw [(pipeline.run_of_passes source last.before).2.1 last, fails]
      rfl

theorem passes_of_result_ne_write (h : (pipeline.run source sink).result ≠ .error .write) :
    sink.Passes pipeline.options.flush (pipeline.lines source.records) := by
  rcases Sink.passes_or_fails pipeline.options.flush sink reached
    (pipeline.lines source.records) with passes | fails | fails
  · exact passes
  · exact absurd ((pipeline.result_run_eq_write_iff source reached).2 (Or.inl fails)) h
  · exact absurd ((pipeline.result_run_eq_write_iff source reached).2 (Or.inr (Or.inl fails))) h

theorem result_run_eq_read_iff :
    (pipeline.run source sink).result = .error .read ↔ source.fails = true ∧
      sink.Passes pipeline.options.flush (pipeline.lines source.records) := by
  constructor
  · intro failed
    have passes := pipeline.passes_of_result_ne_write source reached (by simp [failed])
    obtain ⟨-, failing, flushing⟩ := pipeline.run_of_passes source passes
    refine ⟨?_, passes⟩
    by_cases last : LastFlushFails pipeline.options.flush sink (pipeline.lines source.records)
    · rw [failing last] at failed
      cases fails : source.fails <;> simp [fails] at failed ⊢
    · rw [flushing last] at failed
      cases fails : source.fails <;> simp [fails] at failed ⊢
  · rintro ⟨fails, passes⟩
    obtain ⟨-, failing, flushing⟩ := pipeline.run_of_passes source passes
    rw [fails] at failing flushing
    by_cases last : LastFlushFails pipeline.options.flush sink (pipeline.lines source.records)
    · exact failing last
    · exact flushing last

theorem result_run_eq_ok_iff :
    (∃ stats, (pipeline.run source sink).result = .ok stats) ↔ source.fails = false ∧
      sink.Passes pipeline.options.flush (pipeline.lines source.records) ∧
      ¬ LastFlushFails pipeline.options.flush sink (pipeline.lines source.records) := by
  constructor
  · rintro ⟨stats, ended⟩
    have passes := pipeline.passes_of_result_ne_write source reached (by simp [ended])
    have sound : source.fails = false := by
      rw [← Bool.not_eq_true]
      intro fails
      rw [(pipeline.result_run_eq_read_iff source reached).2 ⟨fails, passes⟩] at ended
      cases ended
    refine ⟨sound, passes, fun last => ?_⟩
    rw [(pipeline.run_of_passes source passes).2.1 last] at ended
    cases ended
  · rintro ⟨sound, passes, last⟩
    rw [(pipeline.run_of_passes source passes).2.2 last, sound]
    exact ⟨_, rfl⟩

end Result

/-- The lines that a run comes to before the source fails are the first ones of the whole input. -/
theorem prefix_lines {input : Bytes} {readFailure : Option Nat}
    (fails : source.fails = readFailure.isSome)
    (bytes : source.toBytes = readFailure.elim input input.take) :
    pipeline.lines source.records <+: pipeline.lines (records input) ∧
      (readFailure = none → pipeline.lines source.records = pipeline.lines (records input)) := by
  cases readFailure with
  | none =>
    rw [Source.records_of_not_fails fails, bytes]
    exact ⟨List.prefix_refl _, fun _ => rfl⟩
  | some k =>
    rw [Source.records_of_take fails bytes]
    refine ⟨?_, nofun⟩
    conv_rhs => rw [← List.take_append_drop ((input.take k).count lineFeed) (records input)]
    rw [lines_append]
    exact List.prefix_append _ _

theorem prefix_flatten {lines more : List Bytes} (h : lines <+: more) :
    lines.flatten <+: more.flatten := by
  obtain ⟨rest, rfl⟩ := h
  rw [List.flatten_append]
  exact List.prefix_append _ _

/-- How a run ends, by the failure that it meets first. A source may fail after some bytes, and the
sink meets the lines of the records that are ended by then. -/
structure EndsBy (readFailure : Option Nat) (mode : FlushMode) (sink : Sink) (lines : List Bytes)
    (result : Except StreamFailure StreamStats) : Prop where
  /-- By the sink, if it fails to take a line or to flush it, or at the end to flush what it has
  taken. -/
  write : result = .error .write ↔
    (∃ i, sink.WriteFailsAt mode lines i) ∨ (∃ i, sink.FlushFailsAt mode lines i) ∨
      readFailure = none ∧ LastFlushFails mode sink lines
  /-- By the source, if it fails and all lines come through. -/
  read : result = .error .read ↔ readFailure.isSome = true ∧ sink.Passes mode lines
  /-- Well, if nothing fails. -/
  ok : (∃ stats, result = .ok stats) ↔
    readFailure = none ∧ sink.Passes mode lines ∧ ¬ LastFlushFails mode sink lines

/-- What a run leaves in the output, next to the output of a run without failures. -/
structure Leaves (readFailure : Option Nat) (mode : FlushMode) (sink : Sink) (lines : List Bytes)
    (output faultFree : Bytes) : Prop where
  /-- It is a beginning of the output without failures. -/
  among : output <+: faultFree
  /-- If the sink fails to take a line, it is what there was room for, and does not go past this
  line. -/
  write : ∀ i, sink.WriteFailsAt mode lines i → ∃ room, sink.room = some room ∧
    output = faultFree.take room ∧ output <+: (lines.take (i + 1)).flatten
  /-- If the sink fails to flush a line, it ends with this line. -/
  flush : ∀ i, sink.FlushFailsAt mode lines i → output = (lines.take (i + 1)).flatten
  /-- If all lines come through, it is all of them. -/
  passes : sink.Passes mode lines → output = lines.flatten
  /-- The lines that the sink meets are a beginning of those without failures. -/
  met : lines.flatten <+: faultFree
  /-- They are all of those if the source does not fail. -/
  complete : readFailure = none → lines.flatten = faultFree

/-- Which failure a run meets first, and what is in the output then. The lines that the sink meets
are those of the records that are ended before the source fails, if it does. -/
theorem run_of_failures (pipeline : Pipeline) {input : Bytes} {readFailure : Option Nat}
    {reads whole : List Read}
    (given : reads.flatMap Read.toBytes = readFailure.elim input input.take)
    (all : whole.flatMap Read.toBytes = input) (room failingFlush : Option Nat) :
    let source : Source := { reads, fails := readFailure.isSome }
    let sink : Sink := { room, failingFlush }
    let mode := pipeline.options.flush
    let lines := pipeline.lines source.records
    let run := pipeline.run source sink
    let faultFree := (pipeline.run { reads := whole, fails := false } {}).sink.taken.toList
    EndsBy readFailure mode sink lines run.result ∧
      Leaves readFailure mode sink lines run.sink.taken.toList faultFree := by
  intro source sink mode lines run faultFree
  let output := run.sink.taken.toList
  have faultFree_eq : faultFree = (pipeline.lines (records input)).flatten := by
    rw [← all]
    exact pipeline.taken_run_of_reads whole
  have failed : source.fails = readFailure.isSome := rfl
  obtain ⟨among, complete⟩ := pipeline.prefix_lines source failed given
  have among : lines.flatten <+: faultFree := faultFree_eq ▸ prefix_flatten among
  have passes : sink.Passes mode lines → output = lines.flatten := by
    intro h
    simp only [output, run, (pipeline.run_of_passes source h).1]
    simp [sink, lines]
  have flush : ∀ i, sink.FlushFailsAt mode lines i → output = (lines.take (i + 1)).flatten := by
    intro i h
    simp only [output, run, (pipeline.run_of_flushFailsAt source h).2]
    simp [sink, lines]
  have write : ∀ i, sink.WriteFailsAt mode lines i → ∃ w, room = some w ∧
      output = faultFree.take w ∧ output <+: (lines.take (i + 1)).flatten := by
    intro i h
    obtain ⟨-, w, limited, short, taken⟩ := pipeline.run_of_writeFailsAt source h
    have output_eq : output = lines.flatten.take w := by
      simp only [output, run, taken]
      simp [sink, lines]
    have short : w ≤ (lines.take (i + 1)).flatten.length := by
      simp only [sink, Array.size_empty, Nat.zero_add] at short
      exact Nat.le_of_lt short
    obtain ⟨others, cut⟩ := prefix_flatten (List.take_prefix (i + 1) lines)
    obtain ⟨further, whole_eq⟩ := among
    refine ⟨w, limited, ?_, ?_⟩
    · rw [output_eq, ← whole_eq, ← cut, List.append_assoc, List.take_append_of_le_length short,
        List.take_append_of_le_length short]
    · rw [output_eq, ← cut, List.take_append_of_le_length short]
      exact List.take_prefix _ _
  have reached : sink.Fits [] := fun _ _ => Nat.zero_le _
  have unbroken : source.fails = false ↔ readFailure = none := by simp [source]
  have beginning : output <+: faultFree := by
    rcases Sink.passes_or_fails mode sink reached lines with h | ⟨i, h⟩ | ⟨i, h⟩
    · rwa [passes h]
    · obtain ⟨w, -, output_eq, -⟩ := write i h
      rw [output_eq]
      exact List.take_prefix w faultFree
    · rw [flush i h]
      exact (prefix_flatten (List.take_prefix (i + 1) lines)).trans among
  refine ⟨⟨?_, ?_, ?_⟩, ⟨beginning, write, flush, passes, among, ?_⟩⟩
  · rw [← unbroken]
    exact pipeline.result_run_eq_write_iff source reached
  · exact pipeline.result_run_eq_read_iff source reached
  · rw [← unbroken]
    exact pipeline.result_run_eq_ok_iff source reached
  · intro noFailure
    rw [faultFree_eq]
    exact congrArg List.flatten (complete noFailure)

/-- Of a source that fails after two records, a sink with room for eighteen bytes and a flush that
is bound to fail after the second line, it is the write of the second line that fails first. -/
theorem run_of_failures_in_second_line :
    let pipeline : Pipeline := { evaluator := .ofPolicy .standard }
    let input : Bytes := [0x78, 0x0A, 0x79, 0x0A, 0x7A]
    let reads : List Read := [.bytes 0x78 [0x0A], .interrupted, .bytes 0x79 [0x0A]]
    let whole : List Read := [.bytes 0x78 [0x0A, 0x79, 0x0A, 0x7A]]
    let run := pipeline.run { reads, fails := true } { room := some 18, failingFlush := some 2 }
    reads.flatMap Read.toBytes = (some 4).elim input input.take ∧
      whole.flatMap Read.toBytes = input ∧ run.result = .error .write ∧
      run.sink.taken.toList = Utf8.encode "unauthorized\nunaut" := by
  intro pipeline input reads whole run
  have given : reads.flatMap Read.toBytes = (some 4).elim input input.take := rfl
  have all : whole.flatMap Read.toBytes = input := rfl
  have lines : pipeline.lines (Source.records { reads, fails := true }) =
      [Utf8.encode "unauthorized\n", Utf8.encode "unauthorized\n"] := by decide +kernel
  have sizes : (Utf8.encode "unauthorized\n").length = 13 := by decide +kernel
  have fails : Sink.WriteFailsAt .everyRecord { room := some 18, failingFlush := some 2 }
      (pipeline.lines (Source.records { reads, fails := true })) 1 := by
    rw [lines]
    refine ⟨by decide, ⟨?_, fun _ => ?_⟩, ?_⟩
    · simp [Sink.Fits, sizes]
    · simp [Sink.Flushes]
    · simp [Sink.Fits, sizes]
  obtain ⟨ends, leaves⟩ := run_of_failures pipeline given all (some 18) (some 2)
  refine ⟨given, all, ends.write.2 (Or.inl ⟨1, fails⟩), ?_⟩
  obtain ⟨w, limited, output, -⟩ := leaves.write 1 fails
  cases limited
  refine output.trans ?_
  rw [taken_run_of_reads]
  decide +kernel

end Pipeline

end AccessStream

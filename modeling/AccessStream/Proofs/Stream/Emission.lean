import AccessStream.Proofs.Stream.Verdict

/-!
# What a sink makes of the lines of a run

A run meets its sink only through its lines: it writes them one after the other, flushing after each
one if it is told to, and stops at the first write or flush that fails (`Sink.emitAll`). So how a
run comes out is told by the lines of the records that can be read, by what the sink makes of them,
and by whether the source fails (`Pipeline.sink_run`, `Pipeline.result_run`).
-/

namespace AccessStream

/-- How many bytes have been written at the end of each of some lines. -/
def lineEnds : Nat → List Bytes → List Nat
  | _, [] => []
  | start, line :: lines => (start + line.length) :: lineEnds (start + line.length) lines

theorem lineEnds_append (start : Nat) (lines more : List Bytes) :
    lineEnds start (lines ++ more) =
      lineEnds start lines ++ lineEnds (start + lines.flatten.length) more := by
  induction lines generalizing start with
  | nil => rfl
  | cons line lines ih =>
    rw [List.cons_append, lineEnds, ih, lineEnds, List.flatten_cons, List.length_append,
      Nat.add_assoc, List.cons_append]

theorem length_lineEnds (start : Nat) (lines : List Bytes) :
    (lineEnds start lines).length = lines.length := by
  induction lines generalizing start with
  | nil => rfl
  | cons line lines ih => rw [lineEnds, List.length_cons, List.length_cons, ih]

namespace Sink

/-- A sink after the write of a line and the flush that may follow it, and whether they
succeeded. -/
def emit (mode : FlushMode) (sink : Sink) (line : Bytes) : Bool × Sink :=
  if (sink.write line).1 && mode = .everyRecord then (sink.write line).2.flush else sink.write line

/-- A sink after some lines, up to the first that fails, and whether there was none. -/
def emitAll (mode : FlushMode) (sink : Sink) : List Bytes → Bool × Sink
  | [] => (true, sink)
  | line :: lines =>
    if (sink.emit mode line).1 then (sink.emit mode line).2.emitAll mode lines
    else (false, (sink.emit mode line).2)

/-- A sink that has taken some lines, with a flush at the end of each if that is asked for. -/
def pass (mode : FlushMode) (sink : Sink) (lines : List Bytes) : Sink :=
  { sink with
    taken := sink.taken ++ lines.flatten
    flushes := sink.flushes ++
      if mode = .everyRecord then (lineEnds sink.taken.size lines).map (FlushCall.mk · true)
      else [] }

/-- A sink has room for some more bytes. -/
def Fits (sink : Sink) (bytes : Bytes) : Prop :=
  ∀ room, sink.room = some room → sink.taken.size + bytes.length ≤ room

/-- None of the next flushes of a sink, as many as given, is bound to fail. -/
def Flushes (sink : Sink) (count : Nat) : Prop :=
  ∀ n, sink.failingFlush = some n → n ≤ sink.flushes.size ∨ sink.flushes.size + count < n

/-- A sink can take some lines, with a flush after each if that is asked for. -/
structure Passes (mode : FlushMode) (sink : Sink) (lines : List Bytes) : Prop where
  fits : sink.Fits lines.flatten
  flushes : mode = .everyRecord → sink.Flushes lines.length

/-- The first operation that fails is the write of the line at an index. -/
structure WriteFailsAt (mode : FlushMode) (sink : Sink) (lines : List Bytes) (i : Nat) : Prop where
  lt : i < lines.length
  before : sink.Passes mode (lines.take i)
  short : ¬ sink.Fits (lines.take (i + 1)).flatten

/-- The first operation that fails is the flush after the line at an index. -/
structure FlushFailsAt (mode : FlushMode) (sink : Sink) (lines : List Bytes) (i : Nat) : Prop where
  lt : i < lines.length
  before : sink.Passes mode (lines.take i)
  fits : sink.Fits (lines.take (i + 1)).flatten
  asked : mode = .everyRecord
  bound : sink.failingFlush = some (sink.flushes.size + i + 1)

section Write

variable {mode : FlushMode} {sink : Sink} {line : Bytes} {lines more : List Bytes} {i : Nat}

theorem size_append_list (taken : Array UInt8) (bytes : Bytes) :
    (taken ++ bytes).size = taken.size + bytes.length := by
  rw [← Array.length_toList, Array.toList_appendList, List.length_append, Array.length_toList]

theorem write_of_fits (h : sink.Fits line) :
    sink.write line = (true, { sink with taken := sink.taken ++ line }) := by
  cases limited : sink.room with
  | none => simp [write, fitting, limited]
  | some room =>
    have enough := h room limited
    have all : min line.length (room - sink.taken.size) = line.length := by omega
    simp [write, fitting, limited, all]

/-- A write that does not fit takes what fits. -/
theorem write_of_short {room : Nat} (limited : sink.room = some room)
    (reached : sink.taken.size ≤ room) (short : room < sink.taken.size + line.length) :
    sink.write line =
      (false, { sink with taken := sink.taken ++ line.take (room - sink.taken.size) }) := by
  have some_fit : min line.length (room - sink.taken.size) = room - sink.taken.size := by omega
  have not_all : room - sink.taken.size ≠ line.length := by omega
  simp [write, fitting, limited, some_fit, not_all]

theorem emit_of_passes (h : sink.Passes mode [line]) :
    sink.emit mode line = (true, sink.pass mode [line]) := by
  have fits : sink.Fits line := by simpa using h.fits
  rw [emit, write_of_fits fits, pass]
  by_cases asked : mode = .everyRecord
  · have bound : sink.failingFlush ≠ some (sink.flushes.size + 1) := by
      intro bound
      have := h.flushes asked _ bound
      simp only [List.length_singleton] at this
      omega
    simp [asked, flush, bound, lineEnds, size_append_list]
  · simp [asked]

theorem pass_nil : sink.pass mode [] = sink := by simp [pass, lineEnds]

theorem size_taken_pass :
    (sink.pass mode lines).taken.size = sink.taken.size + lines.flatten.length :=
  size_append_list _ _

theorem size_flushes_pass (asked : mode = .everyRecord) :
    (sink.pass mode lines).flushes.size = sink.flushes.size + lines.length := by
  rw [pass, if_pos asked, ← Array.length_toList, Array.toList_appendList, List.length_append,
    List.length_map, length_lineEnds, Array.length_toList]

theorem pass_pass : (sink.pass mode lines).pass mode more = sink.pass mode (lines ++ more) := by
  have taken : sink.taken ++ lines.flatten ++ more.flatten =
      sink.taken ++ (lines ++ more).flatten := Array.ext' (by simp)
  rw [pass, size_taken_pass]
  by_cases asked : mode = .everyRecord
  · simp only [pass, taken, if_pos asked, lineEnds_append, List.map_append]
    congr 1
    exact Array.ext' (by simp)
  · simp only [pass, taken, if_neg asked]
    simp

theorem passes_append :
    sink.Passes mode (lines ++ more) ↔
      sink.Passes mode lines ∧ (sink.pass mode lines).Passes mode more := by
  have room_eq : (sink.pass mode lines).room = sink.room := rfl
  have failing_eq : (sink.pass mode lines).failingFlush = sink.failingFlush := rfl
  constructor
  · rintro ⟨fits, flushes⟩
    simp only [Fits, List.flatten_append, List.length_append] at fits
    refine ⟨⟨fun room limited => ?_, fun asked n bound => ?_⟩,
      ⟨fun room limited => ?_, fun asked n bound => ?_⟩⟩
    · have := fits room limited
      omega
    · have := flushes asked n bound
      rw [List.length_append] at this
      omega
    · have := fits room limited
      rw [size_taken_pass]
      omega
    · have := flushes asked n bound
      rw [List.length_append] at this
      rw [size_flushes_pass asked]
      omega
  · rintro ⟨⟨fits, flushes⟩, ⟨fits', flushes'⟩⟩
    refine ⟨fun room limited => ?_, fun asked n bound => ?_⟩
    · have := fits' room limited
      rw [size_taken_pass] at this
      rw [List.flatten_append, List.length_append]
      omega
    · have := flushes asked n bound
      have := flushes' asked n bound
      rw [size_flushes_pass asked] at this
      rw [List.length_append]
      omega

/-- Lines that the sink can take come through, and what follows them meets the sink that has taken
them. -/
theorem emitAll_append (h : sink.Passes mode lines) :
    sink.emitAll mode (lines ++ more) = (sink.pass mode lines).emitAll mode more := by
  induction lines generalizing sink with
  | nil => rw [pass_nil, List.nil_append]
  | cons line lines ih =>
    rw [← List.singleton_append, passes_append] at h
    rw [List.cons_append, emitAll, emit_of_passes h.1, if_pos rfl, ih h.2, pass_pass,
      List.singleton_append]

theorem emitAll_of_passes (h : sink.Passes mode lines) :
    sink.emitAll mode lines = (true, sink.pass mode lines) := by
  have all : sink.emitAll mode (lines ++ []) = (sink.pass mode lines).emitAll mode [] :=
    emitAll_append h
  rwa [List.append_nil, emitAll] at all

theorem passes_of_isSound (h : sink.IsSound) : sink.Passes mode lines := by
  refine ⟨fun room limited => ?_, fun _ n bound => ?_⟩
  · rw [h.1] at limited
    cases limited
  · rw [h.2] at bound
    cases bound

/-- The lines before an index, the line there, and the others. -/
theorem take_getElem_drop (lt : i < lines.length) :
    lines = lines.take i ++ lines[i] :: lines.drop (i + 1) := by
  rw [← List.drop_eq_getElem_cons lt, List.take_append_drop]

theorem flatten_take_succ (lt : i < lines.length) :
    (lines.take (i + 1)).flatten = (lines.take i).flatten ++ lines[i] := by
  rw [List.take_succ_eq_append_getElem lt, List.flatten_append, List.flatten_singleton]

/-- A write that fails leaves as much of all the lines as there is room for. -/
theorem emitAll_of_writeFailsAt (h : sink.WriteFailsAt mode lines i) {room : Nat}
    (limited : sink.room = some room) :
    sink.emitAll mode lines = (false,
      { sink.pass mode (lines.take i) with
        taken := sink.taken ++ lines.flatten.take (room - sink.taken.size) }) := by
  obtain ⟨lt, before, short⟩ := h
  have cut := take_getElem_drop lt
  have reached := before.fits room limited
  have short : room < sink.taken.size + ((lines.take i).flatten.length + lines[i].length) := by
    by_contra enough
    refine short fun room' limited' => ?_
    obtain rfl : room = room' := Option.some.inj (limited.symm.trans limited')
    rw [flatten_take_succ lt, List.length_append]
    omega
  have failed : (sink.pass mode (lines.take i)).write lines[i] =
      (false, { sink.pass mode (lines.take i) with
        taken := (sink.pass mode (lines.take i)).taken ++
          lines[i].take (room - (sink.pass mode (lines.take i)).taken.size) }) :=
    write_of_short limited (by rw [size_taken_pass]; omega) (by rw [size_taken_pass]; omega)
  have taken : (sink.pass mode (lines.take i)).taken ++
        lines[i].take (room - (sink.pass mode (lines.take i)).taken.size) =
      sink.taken ++ lines.flatten.take (room - sink.taken.size) := by
    have flat : lines.flatten =
        (lines.take i).flatten ++ (lines[i] ++ (lines.drop (i + 1)).flatten) := by
      conv_lhs => rw [cut]
      rw [List.flatten_append, List.flatten_cons]
    have inner : room - (sink.taken.size + (lines.take i).flatten.length) ≤ lines[i].length := by
      omega
    have part : lines.flatten.take (room - sink.taken.size) = (lines.take i).flatten ++
        lines[i].take (room - (sink.taken.size + (lines.take i).flatten.length)) := by
      rw [flat, List.take_append, List.take_of_length_le (l := (lines.take i).flatten) (by omega),
        Nat.sub_sub, List.take_append_of_le_length inner]
    rw [size_taken_pass, part]
    exact Array.ext' (by simp [pass])
  conv_lhs => rw [cut]
  rw [emitAll_append before, emitAll, emit, failed]
  simp only [Bool.false_and, Bool.false_eq_true, ↓reduceIte, taken]

/-- A flush that fails leaves the lines up to the one that it follows, and is the last call. -/
theorem emitAll_of_flushFailsAt (h : sink.FlushFailsAt mode lines i) :
    (sink.emitAll mode lines).1 = false ∧
      (sink.emitAll mode lines).2.taken = sink.taken ++ (lines.take (i + 1)).flatten ∧
      (sink.emitAll mode lines).2.flushes.back? =
        some ⟨(sink.emitAll mode lines).2.taken.size, false⟩ := by
  obtain ⟨lt, before, fits, asked, bound⟩ := h
  have cut := take_getElem_drop lt
  have room : (sink.pass mode (lines.take i)).Fits lines[i] := by
    intro room limited
    have := fits room limited
    rw [flatten_take_succ lt, List.length_append] at this
    rw [size_taken_pass]
    omega
  have failing : (sink.pass mode (lines.take i)).failingFlush =
      some ((sink.pass mode (lines.take i)).flushes.size + 1) := by
    rw [size_flushes_pass asked, List.length_take_of_le (Nat.le_of_lt lt)]
    exact bound
  have failed : ((sink.pass mode (lines.take i)).emit mode lines[i]).1 = false ∧
      ((sink.pass mode (lines.take i)).emit mode lines[i]).2.taken =
        sink.taken ++ (lines.take (i + 1)).flatten ∧
      ((sink.pass mode (lines.take i)).emit mode lines[i]).2.flushes.back? =
        some ⟨((sink.pass mode (lines.take i)).emit mode lines[i]).2.taken.size, false⟩ := by
    rw [emit, write_of_fits room, flatten_take_succ lt]
    simp only [asked, decide_true, Bool.and_self, ↓reduceIte, flush]
    rw [asked] at failing
    refine ⟨by simpa using failing, ?_, by simp [failing]⟩
    exact Array.ext' (by simp [pass])
  have whole : sink.emitAll mode lines =
      (false, ((sink.pass mode (lines.take i)).emit mode lines[i]).2) := by
    conv_lhs => rw [cut]
    rw [emitAll_append before, emitAll, failed.1, if_neg Bool.false_ne_true]
  rw [whole]
  exact ⟨rfl, failed.2⟩

end Write

/-- Either all lines come through, or there is a first operation that fails. -/
theorem passes_or_fails (mode : FlushMode) (sink : Sink) (reached : sink.Fits [])
    (lines : List Bytes) :
    sink.Passes mode lines ∨ (∃ i, sink.WriteFailsAt mode lines i) ∨
      ∃ i, sink.FlushFailsAt mode lines i := by
  induction lines using List.reverseRecOn with
  | nil =>
    refine Or.inl ⟨reached, fun _ n _ => ?_⟩
    simp only [List.length_nil]
    omega
  | append_singleton lines line ih =>
    have lt : lines.length < (lines ++ [line]).length := by simp
    have upTo : (lines ++ [line]).take lines.length = lines := List.take_left
    have all : (lines ++ [line]).take (lines.length + 1) = lines ++ [line] :=
      List.take_of_length_le (by simp)
    have inner : ∀ {i n}, i < lines.length → n ≤ i + 1 → (lines ++ [line]).take n = lines.take n :=
      fun hi hn => List.take_append_of_le_length (by omega)
    rcases ih with passes | ⟨i, write⟩ | ⟨i, flush⟩
    · by_cases fits : sink.Fits (lines ++ [line]).flatten
      · by_cases flushes : mode = .everyRecord → sink.Flushes (lines ++ [line]).length
        · exact Or.inl ⟨fits, flushes⟩
        · obtain ⟨asked, unsound⟩ := Classical.not_imp.1 flushes
          simp only [Flushes, not_forall] at unsound
          obtain ⟨n, bound, range⟩ := unsound
          have earlier := passes.flushes asked n bound
          rw [List.length_append, List.length_singleton] at range
          have n_eq : n = sink.flushes.size + lines.length + 1 := by omega
          refine Or.inr (Or.inr ⟨lines.length, lt, ?_, ?_, asked, n_eq ▸ bound⟩)
          · rwa [upTo]
          · rwa [all]
      · refine Or.inr (Or.inl ⟨lines.length, lt, ?_, ?_⟩)
        · rwa [upTo]
        · rwa [all]
    · refine Or.inr (Or.inl ⟨i, Nat.lt_trans write.lt lt, ?_, ?_⟩)
      · rw [inner write.lt (Nat.le_succ i)]
        exact write.before
      · rw [inner write.lt (Nat.le_refl _)]
        exact write.short
    · refine Or.inr (Or.inr ⟨i, Nat.lt_trans flush.lt lt, ?_, ?_, flush.asked, flush.bound⟩)
      · rw [inner flush.lt (Nat.le_succ i)]
        exact flush.before
      · rw [inner flush.lt (Nat.le_refl _)]
        exact flush.fits

end Sink

/-! ## Runs -/

theorem Progress.writeLine_eq (mode : FlushMode) (progress : Progress) (decision : Decision) :
    progress.writeLine mode decision = ((progress.sink.emit mode decision.line).1,
      { progress with sink := (progress.sink.emit mode decision.line).2 }) := by
  simp only [writeLine, Sink.emit]
  split_ifs <;> rfl

theorem Decision.line_ne_nil (decision : Decision) : decision.line ≠ [] := by
  simp [line]

namespace Pipeline

variable (pipeline : Pipeline) (fails : Bool) (progress : Progress)

/-- What becomes of a record, however long it is. -/
def outcome (record : Bytes) : RecordOutcome :=
  pipeline.judge (Frame.ofRecord pipeline.options.maxRecordBytes record)

/-- The lines that are written for some records. -/
def lines (records : List Bytes) : List Bytes :=
  (records.map fun record => (pipeline.verdict record).line).filter (!·.isEmpty)

theorem line_verdict (record : Bytes) :
    (pipeline.verdict record).line = (pipeline.outcome record).line?.elim [] Decision.line := by
  rw [verdict_eq, Verdict.line_ofOutcome, outcome]

theorem lines_append (records more : List Bytes) :
    pipeline.lines (records ++ more) = pipeline.lines records ++ pipeline.lines more := by
  simp [lines]

/-- The lines one after the other are the output. -/
theorem flatten_lines (records : List Bytes) :
    (pipeline.lines records).flatten =
      records.flatMap fun record => (pipeline.verdict record).line := by
  rw [lines, List.flatten_filter_not_isEmpty, List.flatMap]

theorem lines_cons_of_none {record : Bytes} (h : (pipeline.outcome record).line? = none)
    (records : List Bytes) : pipeline.lines (record :: records) = pipeline.lines records := by
  simp [lines, line_verdict, h]

theorem lines_cons_of_some {record : Bytes} {decision : Decision}
    (h : (pipeline.outcome record).line? = some decision) (records : List Bytes) :
    pipeline.lines (record :: records) = decision.line :: pipeline.lines records := by
  simp [lines, line_verdict, h, decision.line_ne_nil]

theorem settle_of_none (source : Source) {record : Bytes}
    (h : (pipeline.outcome record).line? = none) :
    pipeline.settle source progress (Frame.ofRecord pipeline.options.maxRecordBytes record) =
      .next source (progress.note (pipeline.outcome record)) := by
  rw [outcome] at h ⊢
  simp only [settle, h]

theorem settle_of_some (source : Source) {record : Bytes} {decision : Decision}
    (h : (pipeline.outcome record).line? = some decision) :
    pipeline.settle source progress (Frame.ofRecord pipeline.options.maxRecordBytes record) =
      let emitted := progress.sink.emit pipeline.options.flush decision.line
      let further := { progress.note (pipeline.outcome record) with sink := emitted.2 }
      if emitted.1 then .next source further else .stop (fail .write further) := by
  rw [outcome] at h ⊢
  have noted : (progress.note
    (pipeline.judge (Frame.ofRecord pipeline.options.maxRecordBytes record))).sink =
      progress.sink := rfl
  simp only [settle, h, Progress.writeLine_eq, noted]
  cases (progress.sink.emit pipeline.options.flush decision.line).1 <;> rfl

/-- The result of a run whose lines have met the sink: one of them failed, or the source does, or
the last flush, or nothing. -/
def resultAfter (emitted : Bool × Sink) (stats : StreamStats) : Except StreamFailure StreamStats :=
  if !emitted.1 then .error .write
  else if fails then .error .read
  else if emitted.2.flush.1 then .ok stats
  else .error .write

/-- What a run comes to is told by what the sink makes of its lines. -/
theorem settleAll_records (records : List Bytes) :
    let emitted := progress.sink.emitAll pipeline.options.flush (pipeline.lines records)
    let run := pipeline.settleAll fails progress
      (records.map (Frame.ofRecord pipeline.options.maxRecordBytes))
    run.sink = (if emitted.1 then emitted.2.flush.2 else emitted.2) ∧
      run.result = resultAfter fails emitted
        ((records.map pipeline.outcome).foldl StreamStats.add progress.stats) := by
  induction records generalizing progress with
  | nil =>
    cases fails with
    | true => exact ⟨rfl, rfl⟩
    | false =>
      simp only [lines, List.map_nil, List.filter_nil, Sink.emitAll, settleAll, finish,
        resultAfter, Progress.flush]
      rcases progress.sink.flush with ⟨_ | _, sink⟩ <;> exact ⟨rfl, rfl⟩
  | cons record records ih =>
    rw [List.map_cons, settleAll]
    cases line : (pipeline.outcome record).line? with
    | none =>
      rw [pipeline.settle_of_none progress _ line, pipeline.lines_cons_of_none line]
      exact ih (progress.note (pipeline.outcome record))
    | some decision =>
      rw [pipeline.settle_of_some progress _ line, pipeline.lines_cons_of_some line, Sink.emitAll]
      rcases progress.sink.emit pipeline.options.flush decision.line with ⟨_ | _, sink⟩
      · exact ⟨rfl, rfl⟩
      · exact ih { progress.note (pipeline.outcome record) with sink }

theorem foldl_add_outcome (records : List Bytes) :
    (records.map pipeline.outcome).foldl StreamStats.add {} =
      Verdict.stats (records.map pipeline.verdict) := by
  rw [Verdict.foldl_add_eq_stats, List.map_map]
  congr 1
  exact List.map_congr_left fun record _ => (pipeline.verdict_eq record).symm

variable (source : Source) (sink : Sink)

theorem run_eq_settleAll :
    pipeline.run source sink = pipeline.settleAll source.fails { sink }
      (source.records.map (Frame.ofRecord pipeline.options.maxRecordBytes)) :=
  pipeline.runFrom_eq_settleAll source { sink }

/-- The sink after a run: it has met the lines, and unless one of these failed, a last flush. -/
theorem sink_run :
    (pipeline.run source sink).sink =
      let emitted := sink.emitAll pipeline.options.flush (pipeline.lines source.records)
      if emitted.1 then emitted.2.flush.2 else emitted.2 := by
  rw [run_eq_settleAll]
  exact (pipeline.settleAll_records source.fails { sink } source.records).1

/-- The result of a run. -/
theorem result_run :
    (pipeline.run source sink).result = resultAfter source.fails
      (sink.emitAll pipeline.options.flush (pipeline.lines source.records))
      (Verdict.stats (source.records.map pipeline.verdict)) := by
  rw [run_eq_settleAll, ← foldl_add_outcome]
  exact (pipeline.settleAll_records source.fails { sink } source.records).2

/-- A run to a sink that never fails writes all lines and flushes them, and only the source decides
how it ends. -/
theorem run_of_isSound {sink : Sink} (sound : sink.IsSound) :
    let passed := sink.pass pipeline.options.flush (pipeline.lines source.records)
    (pipeline.run source sink).sink =
        { passed with flushes := passed.flushes.push ⟨passed.taken.size, true⟩ } ∧
      (pipeline.run source sink).result =
        if source.fails then .error .read
        else .ok (Verdict.stats (source.records.map pipeline.verdict)) := by
  intro passed
  have emitted : sink.emitAll pipeline.options.flush (pipeline.lines source.records) =
      (true, passed) := Sink.emitAll_of_passes (Sink.passes_of_isSound sound)
  have flushed : passed.flush =
      (true, { passed with flushes := passed.flushes.push ⟨passed.taken.size, true⟩ }) :=
    Sink.flush_of_isSound sound
  rw [sink_run, result_run, emitted]
  simp only [resultAfter, flushed, Bool.not_true, Bool.false_eq_true, ↓reduceIte, and_self]

/-- The output of a run without failures. -/
theorem taken_run_of_reads (reads : List Read) :
    (pipeline.run { reads, fails := false } {}).sink.taken.toList =
      (pipeline.lines (records (reads.flatMap Read.toBytes))).flatten := by
  have sound : ({} : Sink).IsSound := ⟨rfl, rfl⟩
  rw [(pipeline.run_of_isSound { reads, fails := false } sound).1]
  simp [Sink.pass, Source.records, Source.toBytes]

end Pipeline

end AccessStream

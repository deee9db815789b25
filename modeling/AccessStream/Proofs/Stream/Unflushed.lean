import AccessStream.Proofs.Stream.Failures

/-!
# What a run leaves unflushed

Whichever way a run ends, the last thing that it does to its sink is to flush it, unless a write has
failed: then the run stops where it is. What the sink took since the last flush stays unflushed
then, part of a line or, if lines are flushed only at the end, all lines so far
(`Pipeline.unflushed_run`).
-/

namespace AccessStream

/-- The last of some lines ends where all of them do. -/
theorem getD_getLast?_lineEnds (start : Nat) (lines : List Bytes) :
    (lineEnds start lines).getLast?.getD start = start + lines.flatten.length := by
  induction lines generalizing start with
  | nil => rfl
  | cons line lines ih =>
    have rest := ih (start + line.length)
    rw [lineEnds, List.getLast?_cons, Option.getD_some, rest, List.flatten_cons, List.length_append,
      Nat.add_assoc]

namespace Sink

/-- The bytes that a sink took after it was last told to flush. -/
def unflushed (sink : Sink) : Bytes :=
  sink.taken.toList.drop ((sink.flushes.back?.map (·.position)).getD 0)

variable {mode : FlushMode} {sink : Sink} {lines : List Bytes} {i w : Nat}

theorem back?_flush (sink : Sink) :
    sink.flush.2.flushes.back? = some ⟨sink.flush.2.taken.size, sink.flush.1⟩ := by
  simp [flush]

theorem unflushed_of_back? {succeeded : Bool}
    (h : sink.flushes.back? = some ⟨sink.taken.size, succeeded⟩) : sink.unflushed = [] := by
  rw [unflushed, h]
  simp

/-- Where a sink was last told to flush once it has taken some lines: at the end of the last one, or
nowhere, if lines are flushed only at the end. -/
def flushedTo (mode : FlushMode) (lines : List Bytes) : Nat :=
  if mode = .everyRecord then lines.flatten.length else 0

theorem flushedTo_le : flushedTo mode lines ≤ lines.flatten.length := by
  rw [flushedTo]
  split_ifs
  · exact Nat.le_refl _
  · exact Nat.zero_le _

theorem position_back?_pass (fresh : sink.flushes = #[]) (empty : sink.taken = #[]) :
    ((sink.pass mode lines).flushes.back?.map (·.position)).getD 0 = flushedTo mode lines := by
  have last := getD_getLast?_lineEnds 0 lines
  rw [Nat.zero_add] at last
  rw [flushedTo, pass, fresh, empty]
  by_cases asked : mode = .everyRecord
  · simp only [if_pos asked, ← last, ← Array.getLast?_toList]
    simp [List.getLast?_map, Function.comp_def]
  · simp [asked]

/-- If a write fails, there is room for the lines before it, but not for all lines. -/
theorem WriteFailsAt.bounds (h : sink.WriteFailsAt mode lines i) (empty : sink.taken = #[])
    (limited : sink.room = some w) :
    (lines.take i).flatten.length ≤ w ∧ w < lines.flatten.length := by
  have before := h.before.fits w limited
  rw [empty, Array.size_empty, Nat.zero_add] at before
  obtain ⟨rest, whole⟩ := Pipeline.prefix_flatten (List.take_prefix (i + 1) lines)
  refine ⟨before, ?_⟩
  by_contra enough
  refine h.short fun room limited' => ?_
  obtain rfl : w = room := Option.some.inj (limited.symm.trans limited')
  have longer := congrArg List.length whole
  rw [List.length_append] at longer
  rw [empty, Array.size_empty]
  omega

theorem unflushed_emitAll_of_writeFailsAt (h : sink.WriteFailsAt mode lines i)
    (fresh : sink.flushes = #[]) (empty : sink.taken = #[]) (limited : sink.room = some w) :
    (sink.emitAll mode lines).1 = false ∧
      (sink.emitAll mode lines).2.unflushed =
        (lines.flatten.take w).drop (flushedTo mode (lines.take i)) := by
  have emitted := emitAll_of_writeFailsAt h limited
  rw [emitted]
  refine ⟨rfl, ?_⟩
  have position : ((sink.pass mode (lines.take i)).flushes.back?.map (·.position)).getD 0 =
      flushedTo mode (lines.take i) := position_back?_pass fresh empty
  simp only [unflushed, position, empty]
  simp

end Sink

namespace Pipeline

/-- A run ends with a flush unless a write has failed. If one has, all that the sink took since the
last line that was flushed stays unflushed. So nothing does exactly if the write that failed took
nothing and every byte before it was flushed line by line, or there was none. -/
theorem unflushed_run (pipeline : Pipeline) (source : Source) (room failingFlush : Option Nat) :
    let sink : Sink := { room, failingFlush }
    let mode := pipeline.options.flush
    let lines := pipeline.lines source.records
    let run := pipeline.run source sink
    ((∀ i, ¬ sink.WriteFailsAt mode lines i) →
      ∃ succeeded, run.sink.flushes.back? = some ⟨run.sink.taken.size, succeeded⟩) ∧
    (∀ i w, sink.WriteFailsAt mode lines i → room = some w →
      run.result = .error .write ∧ run.sink.taken.toList = lines.flatten.take w ∧
        run.sink.unflushed = (lines.flatten.take w).drop (Sink.flushedTo mode (lines.take i))) ∧
    (run.sink.unflushed = [] ↔
      ∀ i, sink.WriteFailsAt mode lines i → room = some (Sink.flushedTo mode (lines.take i))) := by
  intro sink mode lines run
  have sink_eq := pipeline.sink_run source sink
  have flushed : (∀ i, ¬ sink.WriteFailsAt mode lines i) →
      ∃ succeeded, run.sink.flushes.back? = some ⟨run.sink.taken.size, succeeded⟩ := by
    intro unfailing
    have reached : sink.Fits [] := fun _ _ => Nat.zero_le _
    rcases Sink.passes_or_fails mode sink reached lines with passes | ⟨i, write⟩ | ⟨i, flush⟩
    · have emitted := Sink.emitAll_of_passes passes
      have last : run.sink = (sink.pass mode lines).flush.2 := by
        simp only [run, sink_eq, mode, lines] at emitted ⊢
        rw [emitted, if_pos rfl]
      rw [last]
      exact ⟨_, Sink.back?_flush _⟩
    · exact absurd write (unfailing i)
    · obtain ⟨stopped, -, last⟩ := Sink.emitAll_of_flushFailsAt flush
      have stays : run.sink = (sink.emitAll mode lines).2 := by
        simp only [run, sink_eq, mode, lines] at stopped ⊢
        rw [stopped, if_neg Bool.false_ne_true]
      rw [stays]
      exact ⟨false, last⟩
  have failed : ∀ i w, sink.WriteFailsAt mode lines i → room = some w →
      run.result = .error .write ∧ run.sink.taken.toList = lines.flatten.take w ∧
        run.sink.unflushed = (lines.flatten.take w).drop (Sink.flushedTo mode (lines.take i)) := by
    intro i w h limited
    obtain ⟨result, room', limited', -, taken⟩ := pipeline.run_of_writeFailsAt source h
    obtain rfl : w = room' := Option.some.inj (limited.symm.trans limited')
    obtain ⟨stopped, left⟩ := Sink.unflushed_emitAll_of_writeFailsAt h rfl rfl limited
    refine ⟨result, ?_, ?_⟩
    · simp only [run, taken]
      simp [sink, lines]
    · simp only [run, sink_eq, mode, lines] at stopped left ⊢
      rw [stopped, if_neg Bool.false_ne_true]
      exact left
  refine ⟨flushed, failed, ?_⟩
  by_cases some_write : ∃ i, sink.WriteFailsAt mode lines i
  · obtain ⟨i, h⟩ := some_write
    obtain ⟨-, w, limited, -, -⟩ := pipeline.run_of_writeFailsAt source h
    have limited : room = some w := limited
    constructor
    · intro nothing j hj
      obtain ⟨-, -, left⟩ := failed j w hj limited
      obtain ⟨before, short⟩ := hj.bounds rfl limited
      have position : Sink.flushedTo mode (lines.take j) ≤ w := Sink.flushedTo_le.trans before
      have length := congrArg List.length (left.symm.trans nothing)
      rw [List.length_drop, List.length_take_of_le (Nat.le_of_lt short), List.length_nil] at length
      rw [limited]
      congr 1
      omega
    · intro exact_room
      obtain ⟨-, -, left⟩ := failed i w h limited
      have position : w = Sink.flushedTo mode (lines.take i) :=
        Option.some.inj (limited.symm.trans (exact_room i h))
      rw [left, ← position]
      exact List.drop_eq_nil_of_le (List.length_take_le w _)
  · have unfailing := not_exists.1 some_write
    obtain ⟨succeeded, last⟩ := flushed unfailing
    exact ⟨fun _ i h => absurd h (unfailing i), fun _ => Sink.unflushed_of_back? last⟩

/-- With lines flushed at the end, a sink with room for one of two lines takes the first one whole,
and the run stops at the second without a flush. -/
theorem unflushed_run_of_second_write :
    let pipeline : Pipeline := { evaluator := .ofPolicy .standard, options.flush := .onExit }
    let source : Source := .ofBytes [0x78, 0x0A, 0x79, 0x0A]
    let run := pipeline.run source { room := some 13 }
    run.result = .error .write ∧ run.sink.taken.toList = Utf8.encode "unauthorized\n" ∧
      run.sink.flushes = #[] ∧ run.sink.unflushed = Utf8.encode "unauthorized\n" ∧
      run.sink.unflushed ≠ [] := by
  simp only [result_run, sink_run]
  decide +kernel

end Pipeline

end AccessStream

import AccessStream.Stream.Pipeline

/-!
# Feeding a pipeline

A pipeline can also be fed its input piece by piece as it arrives, with the draft of the record
whose end has not arrived kept between the pieces. It comes to the same as a run from a source that
hands out these pieces (`conclude_feedAll`).
-/

namespace AccessStream

theorem length_of_splitLine {piece line after : Bytes} (h : splitLine piece = (line, some after)) :
    after.length < piece.length := by
  have whole := congrArg List.length (splitLine_some h)
  simp at whole
  omega

namespace Pipeline

/-- What a piece of the input comes to. -/
inductive Fed where
  /-- The piece is used up, and the draft holds what follows its last line feed. -/
  | more (draft : Draft) (progress : Progress)
  /-- Writing failed. -/
  | stop (run : StreamRun)

/-- The course of a pipeline after one more piece of its input. -/
def feed (pipeline : Pipeline) (draft : Draft) (progress : Progress) (piece : Bytes) : Fed :=
  if piece.isEmpty then .more draft progress
  else match _split : splitLine piece with
    | (line, none) => .more (draft.absorb pipeline.options.maxRecordBytes line) progress
    | (line, some after) =>
      let frame := (draft.absorb pipeline.options.maxRecordBytes line).frame
      match pipeline.settle ⟨[], false⟩ progress frame with
      | .next _ progress => pipeline.feed .empty progress after
      | .stop run => .stop run
termination_by piece.length
decreasing_by exact length_of_splitLine _split

/-- The run of a pipeline whose input has ended or failed, after the pieces that it was fed. -/
def conclude (pipeline : Pipeline) (fails : Bool) (draft : Draft) (progress : Progress) :
    StreamRun :=
  match Source.atEnd fails draft with
  | .record frame =>
    match pipeline.settle ⟨[], false⟩ progress frame with
    | .next _ progress => finish progress
    | .stop run => run
  | .ended => finish progress
  | .failed => fail .read progress.flush.2

/-- The run of a pipeline that is fed the answers of a source one after the other. -/
def feedAll (pipeline : Pipeline) (fails : Bool) (draft : Draft) (progress : Progress) :
    List Read → StreamRun
  | [] => pipeline.conclude fails draft progress
  | read :: reads =>
    match pipeline.feed draft progress read.toBytes with
    | .more draft progress => pipeline.feedAll fails draft progress reads
    | .stop run => run

/-- The rest of a run whose next record has already begun. -/
def resume (pipeline : Pipeline) (fails : Bool) (draft : Draft) (progress : Progress)
    (reads : List Read) : StreamRun :=
  match Source.nextFrom pipeline.options.maxRecordBytes fails draft reads with
  | (.record frame, source) =>
    match pipeline.settle source progress frame with
    | .next source progress => pipeline.runFrom source progress
    | .stop run => run
  | (.ended, _) => finish progress
  | (.failed, _) => fail .read progress.flush.2

theorem runFrom_eq (pipeline : Pipeline) (source : Source) (progress : Progress) :
    pipeline.runFrom source progress =
      match pipeline.turn source progress with
      | .next source progress => pipeline.runFrom source progress
      | .stop run => run := by
  rw [runFrom]
  split <;> simp_all

theorem runFrom_eq_resume (pipeline : Pipeline) (source : Source) (progress : Progress) :
    pipeline.runFrom source progress =
      pipeline.resume source.fails .empty progress source.reads := by
  rw [runFrom_eq, turn, resume, Source.next]
  rcases Source.nextFrom pipeline.options.maxRecordBytes source.fails .empty source.reads with
    ⟨_ | _ | _, rest⟩ <;> rfl

/-- What is settled about a record does not depend on what the source does next. -/
theorem settle_eq (pipeline : Pipeline) (source : Source) (progress : Progress) (frame : Frame) :
    pipeline.settle source progress frame =
      match pipeline.settle ⟨[], false⟩ progress frame with
      | .next _ progress => .next source progress
      | .stop run => .stop run := by
  simp only [settle]
  cases RecordOutcome.line? (pipeline.judge frame) with
  | none => rfl
  | some decision =>
    simp only
    rcases Progress.writeLine pipeline.options.flush (progress.note (pipeline.judge frame))
      decision with ⟨_ | _, _⟩ <;> rfl

theorem feed_nil (pipeline : Pipeline) (draft : Draft) (progress : Progress) :
    pipeline.feed draft progress [] = .more draft progress := by
  rw [feed]; rfl

/-- A piece in front of the answers of a source may be empty. -/
theorem feedAll_ofBytes? (pipeline : Pipeline) (fails : Bool) (draft : Draft) (progress : Progress)
    (piece : Bytes) (reads : List Read) :
    pipeline.feedAll fails draft progress ((Read.ofBytes? piece).toList ++ reads) =
      match pipeline.feed draft progress piece with
      | .more draft progress => pipeline.feedAll fails draft progress reads
      | .stop run => run := by
  cases piece with
  | nil => rw [feed_nil]; rfl
  | cons first rest => rfl

theorem resume_eq_feedAll (pipeline : Pipeline) (fails : Bool) (draft : Draft)
    (progress : Progress) (reads : List Read) :
    pipeline.resume fails draft progress reads = pipeline.feedAll fails draft progress reads := by
  induction h : Source.weight reads using Nat.strongRecOn generalizing draft progress reads with
  | ind size ih =>
    subst h
    match reads with
    | [] =>
      rw [resume, Source.nextFrom, feedAll, conclude]
      cases fails with
      | true => rfl
      | false =>
        rw [Source.atEnd]
        cases draft.started with
        | false => rfl
        | true =>
          simp only [Bool.false_eq_true, ↓reduceIte]
          rw [settle_eq]
          cases pipeline.settle ⟨[], false⟩ progress draft.frame with
          | stop run => rfl
          | next source progress => exact runFrom_eq_resume pipeline ⟨[], false⟩ progress
    | .interrupted :: reads =>
      rw [feedAll, Read.toBytes, feed_nil]
      rw [resume, Source.nextFrom, ← resume]
      exact ih _ (by simp [Source.weight, Read.toBytes]) draft progress reads rfl
    | .bytes first rest :: reads =>
      rw [feedAll, Read.toBytes, feed, resume, Source.nextFrom]
      simp only [List.isEmpty_cons, Bool.false_eq_true, ↓reduceIte]
      rcases split : splitLine (first :: rest) with ⟨line, _ | after⟩
      · exact ih _ (by simp [Source.weight]) _ progress reads rfl
      · have shorter := length_of_splitLine split
        simp only
        rw [settle_eq]
        cases pipeline.settle ⟨[], false⟩ progress
            (draft.absorb pipeline.options.maxRecordBytes line).frame with
        | stop run => rfl
        | next source progress =>
          simp only
          rw [runFrom_eq_resume, ← feedAll_ofBytes?]
          refine ih _ ?_ .empty progress _ rfl
          cases after with
          | nil => simp [Source.weight, Read.ofBytes?, Read.toBytes]
          | cons =>
            simp [Source.weight, Read.ofBytes?, Read.toBytes] at shorter ⊢
            omega

/-- Feeding a pipeline the answers of a source comes to the same as running it from the source. -/
theorem conclude_feedAll (pipeline : Pipeline) (source : Source) (sink : Sink) :
    pipeline.feedAll source.fails .empty { sink } source.reads = pipeline.run source sink := by
  rw [run, runFrom_eq_resume, resume_eq_feedAll]

end Pipeline

end AccessStream

import AccessStream.Proofs.Stream.Records
import Mathlib.Logic.Relation

/-!
# The loop that reads a record

Reading a record is a loop over the answers of a source, with a buffer that is used again for each
record. Between two turns the draft knows of the bytes that were taken what the limit allows
(`Reader.Invariant`): it keeps them as long as they fit, and of longer ones only whether all were
blank. A turn keeps the invariant (`Invariant.step`), so every reader on the way has it, and at the
end it says what the call has taken and what it returns (`comesTo_of_invariant`).
-/

namespace AccessStream

/-- A reader in the middle of a record, between two answers of its source. -/
structure Reader where
  /-- What is known of the record; what is kept of it is in the buffer. -/
  draft : Draft
  /-- Whether the line feed of the record was taken. -/
  ended : Bool
  /-- What the source does next. -/
  source : Source

namespace Reader

/-- The reader of a new record. It empties the buffer that it is given. -/
def start (buffer : Array UInt8) (source : Source) : Reader :=
  ⟨{ kept := buffer.shrink 0 }, false, source⟩

/-- A reader takes one answer of its source, up to the first line feed in it. -/
inductive Step (limit : Nat) : Reader → Reader → Prop where
  | interrupted {draft : Draft} {reads : List Read} {fails : Bool} :
      Step limit ⟨draft, false, ⟨.interrupted :: reads, fails⟩⟩ ⟨draft, false, ⟨reads, fails⟩⟩
  | piece {draft : Draft} {first : UInt8} {rest line : Bytes} {reads : List Read} {fails : Bool} :
      splitLine (first :: rest) = (line, none) →
      Step limit ⟨draft, false, ⟨.bytes first rest :: reads, fails⟩⟩
        ⟨draft.absorb limit line, false, ⟨reads, fails⟩⟩
  | line {draft : Draft} {first : UInt8} {rest line after : Bytes} {reads : List Read}
      {fails : Bool} :
      splitLine (first :: rest) = (line, some after) →
      Step limit ⟨draft, false, ⟨.bytes first rest :: reads, fails⟩⟩
        ⟨draft.absorb limit line, true, ⟨(Read.ofBytes? after).toList ++ reads, fails⟩⟩

/-- One reader becomes another one while it reads its record. -/
def Reaches (limit : Nat) : Reader → Reader → Prop := Relation.ReflTransGen (Step limit)

/-- There is nothing more to take: the record has ended, or the source has no more answers. -/
def IsDone (reader : Reader) : Prop := reader.ended = true ∨ reader.source.reads = []

/-- What a reader returns that is done. -/
def returned (reader : Reader) : Reading :=
  if reader.ended then .record reader.draft.frame
  else Source.atEnd reader.source.fails reader.draft

/-- The reader that is done with the record of which a part has arrived. -/
def finish (limit : Nat) (fails : Bool) (draft : Draft) : List Read → Reader
  | [] => ⟨draft, false, ⟨[], fails⟩⟩
  | .interrupted :: reads => finish limit fails draft reads
  | .bytes first rest :: reads =>
    match splitLine (first :: rest) with
    | (line, some after) =>
      ⟨draft.absorb limit line, true, ⟨(Read.ofBytes? after).toList ++ reads, fails⟩⟩
    | (line, none) => finish limit fails (draft.absorb limit line) reads

/-- The reader that is done with the next record of a source. -/
def read (limit : Nat) (buffer : Array UInt8) (source : Source) : Reader :=
  finish limit source.fails (start buffer source).draft source.reads

/-! ## The loop and its end -/

section Loop

variable (limit : Nat) (fails : Bool) (draft : Draft) (reads : List Read)

theorem reaches_finish :
    Reaches limit ⟨draft, false, ⟨reads, fails⟩⟩ (finish limit fails draft reads) := by
  fun_induction finish limit fails draft reads with
  | case1 draft => exact .refl
  | case2 draft reads ih => exact .head .interrupted ih
  | case3 draft first rest reads line after split => exact .single (.line split)
  | case4 draft first rest reads line split ih => exact .head (.piece split) ih

theorem isDone_finish : (finish limit fails draft reads).IsDone := by
  fun_induction finish limit fails draft reads with
  | case1 draft => exact .inr rfl
  | case2 draft reads ih => exact ih
  | case3 draft first rest reads line after split => exact .inl rfl
  | case4 draft first rest reads line split ih => exact ih

theorem nextFrom_eq_finish :
    Source.nextFrom limit fails draft reads =
      ((finish limit fails draft reads).returned, (finish limit fails draft reads).source) := by
  fun_induction finish limit fails draft reads with
  | case1 draft => rfl
  | case2 draft reads ih => exact ih
  | case3 draft first rest reads line after split =>
    rw [Source.nextFrom, split]
    rfl
  | case4 draft first rest reads line split ih =>
    rw [Source.nextFrom, split]
    exact ih

end Loop

/-- What the buffer held before plays no part. -/
theorem draft_start (buffer : Array UInt8) (source : Source) :
    (start buffer source).draft = .empty := by
  simp [start, Draft.empty]

theorem next_eq_read (limit : Nat) (buffer : Array UInt8) (source : Source) :
    source.next limit = ((read limit buffer source).returned, (read limit buffer source).source) := by
  rw [Source.next, nextFrom_eq_finish, read, draft_start]

end Reader

/-! ## The invariant of the loop -/

/-- What a draft knows of the bytes that it has taken. -/
structure Draft.Knows (limit : Nat) (taken : Bytes) (draft : Draft) : Prop where
  kept : draft.kept.toList = if taken.length ≤ limit then taken else []
  oversized : draft.oversized = true ↔ limit < taken.length
  blank : draft.blank = taken.all Frame.isBlankByte

namespace Draft.Knows

variable {limit : Nat} {taken : Bytes} {draft : Draft}

theorem empty (limit : Nat) : Draft.empty.Knows limit [] := by
  refine ⟨?_, ?_, rfl⟩ <;> simp [Draft.empty]

theorem size_kept (h : draft.Knows limit taken) :
    draft.kept.size = if taken.length ≤ limit then taken.length else 0 := by
  rw [← Array.length_toList, h.kept]
  split_ifs <;> rfl

theorem size_kept_le (h : draft.Knows limit taken) : draft.kept.size ≤ limit := by
  rw [h.size_kept]
  split_ifs with fits
  · exact fits
  · exact Nat.zero_le limit

theorem kept_of_oversized (h : draft.Knows limit taken) (long : draft.oversized = true) :
    draft.kept = #[] := by
  have passed : ¬ taken.length ≤ limit := Nat.not_le.2 (h.oversized.1 long)
  rw [← Array.toList_inj, h.kept, if_neg passed]

/-- A draft that has taken a piece more knows of the bytes with the piece. -/
theorem absorb (h : draft.Knows limit taken) (piece : Bytes) :
    (draft.absorb limit piece).Knows limit (taken ++ piece) := by
  have oversized : (draft.absorb limit piece).oversized = true ↔
      limit < (taken ++ piece).length := by
    rw [Draft.absorb, Bool.or_eq_true, h.oversized, decide_eq_true_eq, h.size_kept,
      List.length_append]
    split_ifs <;> omega
  refine ⟨?_, oversized, ?_⟩
  · have kept : (draft.absorb limit piece).kept =
        if (draft.absorb limit piece).oversized then #[] else draft.kept ++ piece := rfl
    by_cases long : limit < (taken ++ piece).length
    · rw [kept, if_pos (oversized.2 long), if_neg (Nat.not_le.2 long)]
    · have before : taken.length ≤ limit := by
        rw [List.length_append] at long
        omega
      rw [kept, if_neg (long ∘ oversized.1), if_pos (Nat.not_lt.1 long), Array.toList_appendList,
        h.kept, if_pos before]
  · rw [Draft.absorb, h.blank, List.all_append]

theorem frame_eq (h : draft.Knows limit taken) : draft.frame = Frame.ofRecord limit taken := by
  rw [Draft.frame, Frame.ofRecord, h.blank, h.kept]
  by_cases fits : taken.length ≤ limit
  · rw [if_neg (Nat.not_lt.2 fits ∘ h.oversized.1), if_pos fits, if_pos fits]
  · rw [if_pos (h.oversized.2 (Nat.lt_of_not_le fits)), if_neg fits]

end Draft.Knows

namespace Reader

/-- What holds between two turns of the loop over a source: the reader has taken some bytes without
a line feed, and the line feed behind them if the record has ended, and nothing else. -/
structure Invariant (limit : Nat) (source : Source) (taken : Bytes) (reader : Reader) : Prop where
  noFeed : lineFeed ∉ taken
  bytes : source.toBytes =
    taken ++ (if reader.ended then [lineFeed] else []) ++ reader.source.toBytes
  fails : reader.source.fails = source.fails
  started : reader.draft.started = true ↔ taken ≠ [] ∨ reader.ended = true
  knows : reader.draft.Knows limit taken

section Invariant

variable {limit : Nat} {source : Source} {taken : Bytes} {reader later : Reader}

theorem invariant_start (limit : Nat) (buffer : Array UInt8) (source : Source) :
    Invariant limit source [] (start buffer source) where
  noFeed := List.not_mem_nil
  bytes := rfl
  fails := rfl
  started := by simp [start]
  knows := by
    rw [draft_start]
    exact .empty limit

/-- A turn of the loop keeps the invariant, with a piece more that was taken. -/
theorem Invariant.step (h : Invariant limit source taken reader) (step : Step limit reader later) :
    ∃ piece, Invariant limit source (taken ++ piece) later := by
  cases step with
  | interrupted =>
    refine ⟨[], ?_⟩
    rw [List.append_nil]
    exact ⟨h.noFeed, h.bytes, h.fails, h.started, h.knows⟩
  | @piece draft first rest line reads fails split =>
    obtain rfl := splitLine_none split
    have noFeed := not_mem_of_splitLine split
    refine ⟨first :: rest, ?_, ?_, h.fails, ?_, h.knows.absorb _⟩
    · rw [List.mem_append, not_or]
      exact ⟨h.noFeed, noFeed⟩
    · rw [h.bytes]
      simp [Source.toBytes, Read.toBytes]
    · simp [Draft.absorb]
  | @line draft first rest line after reads fails split =>
    have noFeed := not_mem_of_splitLine split
    refine ⟨line, ?_, ?_, h.fails, ?_, h.knows.absorb line⟩
    · rw [List.mem_append, not_or]
      exact ⟨h.noFeed, noFeed⟩
    · rw [h.bytes]
      have whole := splitLine_some split
      cases after <;> simp [Source.toBytes, Read.toBytes, Read.ofBytes?, whole]
    · simp [Draft.absorb]

/-- Every reader on the way has the invariant. -/
theorem exists_invariant_of_reaches {buffer : Array UInt8}
    (reaches : Reaches limit (start buffer source) reader) :
    ∃ taken, Invariant limit source taken reader := by
  induction reaches with
  | refl => exact ⟨[], invariant_start limit buffer source⟩
  | tail _ step ih =>
    obtain ⟨taken, h⟩ := ih
    obtain ⟨piece, next⟩ := h.step step
    exact ⟨taken ++ piece, next⟩

end Invariant

/-! ## What a call comes to -/

/-- What reading from a source can come to. -/
inductive ComesTo (limit : Nat) (source : Source) (last : Reader) : Prop where
  /-- No byte remained. -/
  | ended (nothing : source.toBytes = []) (lasts : source.fails = false)
      (returned : last.returned = .ended)
  /-- The source failed before the line feed of the record. -/
  | failed (fails : source.fails = true) (unended : lineFeed ∉ source.toBytes)
      (returned : last.returned = .failed)
  /-- The next record was taken, with its line feed if it has one, and not a byte more. -/
  | record (record feed : Bytes) (noFeed : lineFeed ∉ record)
      (taken : source.toBytes = record ++ feed ++ last.source.toBytes)
      (feed_eq : feed = [lineFeed] ∨
        feed = [] ∧ record ≠ [] ∧ last.source.toBytes = [] ∧ source.fails = false)
      (buffer : last.draft.kept.toList = if record.length ≤ limit then record else [])
      (returned : last.returned = .record (Frame.ofRecord limit record))

section Calls

variable {limit : Nat} {source : Source} {taken : Bytes} {last : Reader}

/-- The invariant of a reader that is done says what the call comes to. -/
theorem comesTo_of_invariant (h : Invariant limit source taken last) (done : last.IsDone) :
    ComesTo limit source last := by
  cases ended : last.ended with
  | true =>
    have bytes := h.bytes
    rw [ended, if_pos rfl] at bytes
    refine .record taken [lineFeed] h.noFeed bytes (.inl rfl) h.knows.kept ?_
    rw [returned, ended, if_pos rfl, h.knows.frame_eq]
  | false =>
    have exhausted : last.source.toBytes = [] := by
      rw [Source.toBytes, done.resolve_left (by simp [ended]), List.flatMap_nil]
    have bytes := h.bytes
    have started := h.started
    rw [ended, exhausted] at bytes
    simp only [Bool.false_eq_true, ↓reduceIte, List.append_nil] at bytes
    simp only [ended, Bool.false_eq_true, or_false] at started
    have returns : last.returned = Source.atEnd source.fails last.draft := by
      rw [returned, ended, h.fails, if_neg Bool.false_ne_true]
    cases fails : source.fails with
    | true =>
      refine .failed fails (bytes ▸ h.noFeed) ?_
      rw [returns, fails]
      rfl
    | false =>
      rw [fails, Source.atEnd, if_neg Bool.false_ne_true] at returns
      by_cases nothing : taken = []
      · refine .ended (bytes.trans nothing) fails ?_
        rw [returns, if_neg fun begun => started.1 begun nothing]
      · refine .record taken [] h.noFeed ?_ (.inr ⟨rfl, nothing, exhausted, fails⟩) h.knows.kept ?_
        · rw [bytes, exhausted, List.append_nil, List.append_nil]
        · rw [returns, if_pos (started.2 nothing), h.knows.frame_eq]

theorem reaches_read (limit : Nat) (buffer : Array UInt8) (source : Source) :
    Reaches limit (start buffer source) (read limit buffer source) :=
  reaches_finish limit source.fails (start buffer source).draft source.reads

theorem comesTo_read (limit : Nat) (buffer : Array UInt8) (source : Source) :
    ComesTo limit source (read limit buffer source) := by
  obtain ⟨taken, h⟩ := exists_invariant_of_reaches (reaches_read limit buffer source)
  exact comesTo_of_invariant h (isDone_finish ..)

theorem fails_read (limit : Nat) (buffer : Array UInt8) (source : Source) :
    (read limit buffer source).source.fails = source.fails := by
  obtain ⟨taken, h⟩ := exists_invariant_of_reaches (reaches_read limit buffer source)
  exact h.fails

/-- The end of the input is returned exactly if no byte remained. -/
theorem returned_eq_ended_iff (h : ComesTo limit source last) :
    last.returned = .ended ↔ source.toBytes = [] ∧ source.fails = false := by
  constructor
  · intro returns
    cases h with
    | ended nothing lasts returned => exact ⟨nothing, lasts⟩
    | failed fails unended returned => cases returns.symm.trans returned
    | record record feed noFeed taken feed_eq buffer returned => cases returns.symm.trans returned
  · rintro ⟨nothing, lasts⟩
    cases h with
    | ended nothing lasts returned => exact returned
    | failed fails unended returned => cases lasts.symm.trans fails
    | record record feed noFeed taken feed_eq buffer returned =>
      rw [nothing] at taken
      obtain ⟨front, -⟩ := List.append_eq_nil_iff.1 taken.symm
      obtain ⟨empty, unfed⟩ := List.append_eq_nil_iff.1 front
      rcases feed_eq with feed_eq | ⟨-, some, -⟩
      · cases unfed.symm.trans feed_eq
      · exact absurd empty some

end Calls

end Reader

namespace Source

open Reader (read)

variable (limit : Nat) {source : Source}

/-- Reading gives the first record of what a source hands out, and leaves what follows its line
feed. -/
theorem next_of_line {line rest : Bytes} (h : lineFeed ∉ line)
    (bytes : source.toBytes = line ++ lineFeed :: rest) :
    ∃ left, source.next limit = (.record (Frame.ofRecord limit line), ⟨left, source.fails⟩) ∧
      toBytes ⟨left, source.fails⟩ = rest := by
  have found : lineFeed ∈ source.toBytes := by simp [bytes]
  refine ⟨(read limit #[] source).source.reads, ?_⟩
  rw [Reader.next_eq_read limit #[], ← Reader.fails_read limit #[] source]
  cases Reader.comesTo_read limit #[] source with
  | ended nothing lasts returned =>
    rw [nothing] at found
    cases found
  | failed fails unended returned => exact absurd found unended
  | record record feed noFeed taken feed_eq buffer returned =>
    rcases feed_eq with rfl | ⟨rfl, -, nothing, -⟩
    · rw [bytes, List.append_assoc, List.singleton_append] at taken
      obtain ⟨rfl, left⟩ := line_unique h noFeed taken
      exact ⟨by rw [returned], left.symm⟩
    · rw [taken, nothing, List.append_nil, List.append_nil] at found
      exact absurd found noFeed

/-- At the end of the input, what is left is the last record, unless nothing is left; if the source
fails there, it is none. -/
theorem next_of_no_line (h : lineFeed ∉ source.toBytes) :
    source.next limit =
      (if source.fails then .failed
        else if source.toBytes = [] then .ended
        else .record (Frame.ofRecord limit source.toBytes), ⟨[], source.fails⟩) := by
  have reads : (read limit #[] source).source.reads = [] := by
    obtain ⟨taken, invariant⟩ :=
      Reader.exists_invariant_of_reaches (Reader.reaches_read limit #[] source)
    have done : (read limit #[] source).IsDone := Reader.isDone_finish ..
    refine done.resolve_left fun ended => h ?_
    rw [invariant.bytes, if_pos ended]
    simp
  rw [Reader.next_eq_read limit #[], ← reads, ← Reader.fails_read limit #[] source]
  refine Prod.ext_iff.2 ⟨?_, rfl⟩
  rw [Reader.fails_read]
  cases Reader.comesTo_read limit #[] source with
  | ended nothing lasts returned =>
    rw [returned, lasts, if_neg Bool.false_ne_true, if_pos nothing]
  | failed fails unended returned => rw [returned, fails, if_pos rfl]
  | record record feed noFeed taken feed_eq buffer returned =>
    rcases feed_eq with rfl | ⟨rfl, some, nothing, lasts⟩
    · exact absurd (by simp [taken]) h
    · rw [nothing, List.append_nil, List.append_nil] at taken
      rw [returned, lasts, if_neg Bool.false_ne_true, taken, if_neg some]

end Source

/-! ## Repeated calls -/

namespace Reader

theorem weight_read_lt {limit : Nat} {buffer : Array UInt8} {source : Source} {frame : Frame}
    (h : (read limit buffer source).returned = .record frame) :
    Source.weight (read limit buffer source).source.reads < Source.weight source.reads := by
  have next := next_eq_read limit buffer source
  have found : (source.next limit).1 = .record frame := by rw [next, h]
  have less := Source.weight_next_lt found
  rwa [next] at less

/-- The readers of one record after the other, each with the buffer that the one before has left, up
to the first that reads no record. -/
def readAll (limit : Nat) (buffer : Array UInt8) (source : Source) : List Reader :=
  let last := read limit buffer source
  match _returned : last.returned with
  | .record _ => last :: readAll limit last.draft.kept last.source
  | .ended => [last]
  | .failed => [last]
termination_by Source.weight source.reads
decreasing_by exact weight_read_lt _returned

section Repeated

variable {limit : Nat} {buffer : Array UInt8} {source : Source}

theorem readAll_of_record {frame : Frame}
    (h : (read limit buffer source).returned = .record frame) :
    readAll limit buffer source = read limit buffer source ::
      readAll limit (read limit buffer source).draft.kept (read limit buffer source).source := by
  rw [readAll]
  split <;> simp_all

theorem readAll_of_no_record (h : ∀ frame, (read limit buffer source).returned ≠ .record frame) :
    readAll limit buffer source = [read limit buffer source] := by
  rw [readAll]
  split <;> simp_all

end Repeated

/-- The readers of a source divide its bytes into lines and what follows the last one. The induction
is on the number of bytes, which each record shortens. -/
theorem exists_lines_of_readAll (limit : Nat) (buffer : Array UInt8) (source : Source) :
    ∃ lines tail, (∀ line ∈ lines, lineFeed ∉ line) ∧ lineFeed ∉ tail ∧
      source.toBytes = lines.flatMap (· ++ [lineFeed]) ++ tail ∧
      (readAll limit buffer source).map returned =
        (lines ++ if source.fails || tail.isEmpty then [] else [tail]).map
            (fun record => Reading.record (Frame.ofRecord limit record)) ++
          [if source.fails then .failed else .ended] := by
  induction size : source.toBytes.length using Nat.strongRecOn generalizing buffer source with
  | ind size ih =>
    subst size
    cases comesTo_read limit buffer source with
    | ended nothing lasts returned =>
      refine ⟨[], [], List.forall_mem_nil _, List.not_mem_nil, nothing, ?_⟩
      rw [readAll_of_no_record (by simp [returned]), List.map_singleton, returned, lasts]
      rfl
    | failed fails unended returned =>
      refine ⟨[], source.toBytes, List.forall_mem_nil _, unended, rfl, ?_⟩
      rw [readAll_of_no_record (by simp [returned]), List.map_singleton, returned, fails]
      rfl
    | record record feed noFeed taken feed_eq kept returned =>
      have shorter : (read limit buffer source).source.toBytes.length < source.toBytes.length := by
        rw [taken, List.length_append, List.length_append]
        rcases feed_eq with rfl | ⟨-, some, -⟩
        · simp
        · have := List.length_pos_iff.2 some
          omega
      obtain ⟨lines, tail, ended, unended, bytes, readings⟩ :=
        ih _ shorter (read limit buffer source).draft.kept (read limit buffer source).source rfl
      rw [fails_read] at readings
      rw [readAll_of_record returned, List.map_cons, returned, readings]
      rcases feed_eq with rfl | ⟨rfl, some, nothing, lasts⟩
      · refine ⟨record :: lines, tail, List.forall_mem_cons.2 ⟨noFeed, ended⟩, unended, ?_, rfl⟩
        rw [taken, bytes, List.flatMap_cons, List.append_assoc (record ++ [lineFeed])]
      · -- The last record has no line feed, so it is what follows the last line.
        rw [nothing] at bytes
        obtain ⟨unlined, rfl⟩ := List.append_eq_nil_iff.1 bytes.symm
        obtain rfl : lines = [] := by
          cases lines with
          | nil => rfl
          | cons line lines => simp at unlined
        refine ⟨[], record, List.forall_mem_nil _, noFeed, ?_, ?_⟩
        · rw [taken, nothing, List.append_nil, List.append_nil]
          rfl
        · have filled : record.isEmpty = false := List.isEmpty_eq_false_iff.2 some
          rw [lasts, filled]
          rfl

/-- While a record is read, whatever the buffer held before, the buffer holds the bytes of the record
that were taken if they fit the limit, and else none. The call takes the next record with its line
feed and returns it, or whether it is blank if it does not fit; at the end of the input, and only
there, it returns the end. So the calls that read a source to its end divide what it hands out into
its records. -/
theorem reads_records (limit : Nat) (buffer : Array UInt8) (source : Source) :
    let last := read limit buffer source
    (∀ reader, Reaches limit (start buffer source) reader →
      reader.draft.kept.size ≤ limit ∧
      (reader.draft.oversized = true → reader.draft.kept = #[]) ∧
      ∃ taken, Invariant limit source taken reader) ∧
    (Reaches limit (start buffer source) last ∧ last.IsDone ∧
      source.next limit = (last.returned, last.source)) ∧
    ComesTo limit source last ∧
    (last.returned = .ended ↔ source.toBytes = [] ∧ source.fails = false) ∧
    ∃ lines tail, (∀ line ∈ lines, lineFeed ∉ line) ∧ lineFeed ∉ tail ∧
      source.toBytes = lines.flatMap (· ++ [lineFeed]) ++ tail ∧
      (readAll limit buffer source).map returned =
        (lines ++ if source.fails || tail.isEmpty then [] else [tail]).map
            (fun record => Reading.record (Frame.ofRecord limit record)) ++
          [if source.fails then .failed else .ended] := by
  intro last
  have comesTo : ComesTo limit source last := comesTo_read limit buffer source
  refine ⟨fun reader reaches => ?_, ⟨reaches_read limit buffer source, isDone_finish ..,
    next_eq_read limit buffer source⟩, comesTo, returned_eq_ended_iff comesTo,
    exists_lines_of_readAll limit buffer source⟩
  obtain ⟨taken, h⟩ := exists_invariant_of_reaches reaches
  exact ⟨h.knows.size_kept_le, h.knows.kept_of_oversized, taken, h⟩

/-- A blank record that passes the limit in its first piece, read into a buffer that holds something,
with an interruption and the first byte of the next record behind its line feed. -/
theorem reads_records_of_long_blank :
    let source : Source := ⟨[.bytes 0x20 [0x09], .interrupted, .bytes 0x0D [0x0A, 0x78]], false⟩
    let reader : Reader :=
      ⟨Draft.empty.absorb 1 [0x20, 0x09], false, ⟨source.reads.tail, false⟩⟩
    let last := read 1 #[0x7B] source
    Reaches 1 (start #[0x7B] source) reader ∧ reader.draft.oversized = true ∧
      reader.draft.kept = #[] ∧ reader.draft.kept.size ≤ 1 ∧
      source.next 1 = (last.returned, last.source) ∧
      last.returned = .record (.oversized true) ∧ last.source.toBytes = [0x78] := by
  intro source reader last
  obtain ⟨way, ⟨-, -, next⟩, -⟩ := reads_records 1 #[0x7B] source
  have reaches : Reaches 1 (start #[0x7B] source) reader := .single (.piece (by decide))
  have long : reader.draft.oversized = true := by decide
  obtain ⟨bounded, emptied, -⟩ := way reader reaches
  exact ⟨reaches, long, emptied long, bounded, next, by decide, by decide⟩

end Reader

end AccessStream

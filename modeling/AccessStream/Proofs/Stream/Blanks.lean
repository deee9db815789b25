import AccessStream.Proofs.Record
import AccessStream.Proofs.Stream.Emission

/-!
# Which records a run passes over

A record within the limit is passed over if it is white space in the sense of Unicode. Of a record
past the limit only the bytes are looked at as they go by, and it is passed over if they are white
space of ASCII. So a run passes over blank records only, but not over all of them: a no-break space
that does not fit the limit is answered with a line (`Pipeline.line_of_long_blank`). The two tests
agree as long as no long record holds white space of more than one byte, or a vertical tab
(`Pipeline.blank_records_of_run`).
-/

namespace AccessStream

open String (utf8EncodeChar)

theorem encodeChar_of_asciiBlank {byte : UInt8} (h : byte ∈ asciiBlanks) :
    Char.ofNat byte.toNat ∈ whiteSpace ∧ utf8EncodeChar (Char.ofNat byte.toNat) = [byte] := by
  simp only [asciiBlanks, List.mem_cons, List.not_mem_nil, or_false] at h
  rcases h with rfl | rfl | rfl | rfl | rfl <;> decide

/-- What is blank by its bytes is blank as a text. -/
theorem Record.isBlank_of_asciiBlanks {record : Bytes}
    (h : record.all asciiBlanks.contains = true) : Record.isBlank record = true := by
  have ascii : ∀ byte ∈ record, byte ∈ asciiBlanks := by
    intro byte hb
    exact List.contains_iff_mem.1 (List.all_eq_true.1 h byte hb)
  rw [isBlank_eq_true_iff]
  refine ⟨String.ofList (record.map fun byte => Char.ofNat byte.toNat), ?_, ?_⟩
  · intro c hc
    rw [String.toList_ofList, List.mem_map] at hc
    obtain ⟨byte, hb, rfl⟩ := hc
    exact (encodeChar_of_asciiBlank (ascii byte hb)).1
  · rw [Utf8.encode_eq_flatMap, String.toList_ofList, List.flatMap_map]
    have same : record.flatMap (fun byte => utf8EncodeChar (Char.ofNat byte.toNat)) =
        record.flatMap (fun byte => [byte]) :=
      List.flatMap_congr fun byte hb => (encodeChar_of_asciiBlank (ascii byte hb)).2
    rw [same, List.flatMap_singleton']

namespace Pipeline

variable (pipeline : Pipeline)

/-- Whether a run can tell of a record that it is blank, if it is: the record fits the limit, or
its bytes are white space of ASCII. -/
def recognizes (record : Bytes) : Bool :=
  record.length ≤ pipeline.options.maxRecordBytes || record.all asciiBlanks.contains

theorem verdict_eq_skipped_iff {record : Bytes} :
    pipeline.verdict record = .skipped ↔
      Record.isBlank record = true ∧ pipeline.recognizes record = true := by
  rw [verdict, recognizes, Bool.or_eq_true, decide_eq_true_eq]
  by_cases fits : record.length ≤ pipeline.options.maxRecordBytes
  · have decoded : Record.decode record = .ok none ↔ Record.isBlank record = true := by
      rw [Record.decode_eq_none_iff, Record.isBlank_eq_true_iff]
    rw [if_pos fits, ← decoded]
    rcases Record.decode record with error | _ | set <;> simp [fits]
  · rw [if_neg fits]
    by_cases ascii : record.all asciiBlanks.contains = true
    · rw [if_pos ascii]
      exact ⟨fun _ => ⟨Record.isBlank_of_asciiBlanks ascii, Or.inr ascii⟩, fun _ => rfl⟩
    · rw [if_neg ascii]
      simp [fits, ascii]

theorem verdict_of_not_recognizes {record : Bytes} (h : pipeline.recognizes record = false) :
    pipeline.verdict record = .malformed := by
  rw [recognizes, Bool.or_eq_false_iff, decide_eq_false_iff_not] at h
  rw [verdict, if_neg h.1, if_neg (Bool.eq_false_iff.1 h.2)]

theorem line_eq_nil_iff {verdict : Verdict} : verdict.line = [] ↔ verdict = .skipped := by
  match verdict with
  | .skipped => simp [Verdict.line]
  | .malformed => decide
  | .decided .authorized => decide
  | .decided .unauthorized => decide

/-- A record is passed over if it is blank and recognized. -/
def passesOver (record : Bytes) : Bool := Record.isBlank record && pipeline.recognizes record

theorem passesOver_eq_true_iff {record : Bytes} :
    pipeline.passesOver record = true ↔ pipeline.verdict record = .skipped := by
  rw [passesOver, Bool.and_eq_true, verdict_eq_skipped_iff]

theorem count_skipped (input : List Bytes) :
    (input.map pipeline.verdict).count .skipped = input.countP pipeline.passesOver := by
  rw [List.count, List.countP_map]
  refine List.countP_congr fun record _ => ?_
  rw [Function.comp_apply, beq_iff_eq, passesOver_eq_true_iff]

theorem lines_eq_map_filter (input : List Bytes) :
    pipeline.lines input = (input.filter (!pipeline.passesOver ·)).map
      fun record => (pipeline.verdict record).line := by
  rw [lines, List.filter_map]
  congr 1
  refine List.filter_congr fun record _ => ?_
  rw [Function.comp_apply, Bool.eq_iff_iff, Bool.not_eq_true', Bool.not_eq_true',
    ← Bool.not_eq_true, ← Bool.not_eq_true, not_iff_not, List.isEmpty_iff, line_eq_nil_iff,
    passesOver_eq_true_iff]

/-- As many elements have both of two properties as have the first exactly if the second follows
from it. -/
theorem countP_and_eq_iff {α : Type} (p q : α → Bool) (l : List α) :
    (l.countP fun x => p x && q x) = l.countP p ↔ ∀ x ∈ l, p x = true → q x = true := by
  induction l with
  | nil => simp
  | cons x l ih =>
    have le : (l.countP fun x => p x && q x) ≤ l.countP p :=
      List.countP_mono_left fun y _ hy => (Bool.and_eq_true_iff.1 hy).1
    rw [List.countP_cons, List.countP_cons, List.forall_mem_cons, ← ih]
    cases p x with
    | false => simp
    | true =>
      cases q x with
      | true => simp
      | false =>
        simp only [Bool.and_false, Bool.false_eq_true, ↓reduceIte, imp_false, not_true_eq_false,
          false_and, iff_false]
        omega

/-- A run passes over the blank records that it recognizes, and writes a line for every other
record. So it passes over exactly the blank records if it recognizes all that there are, and not
otherwise; and under another limit the same records have lines exactly if no blank record is
recognized under only one of the limits. -/
theorem blank_records_of_run (reads : List Read) :
    let input := records (reads.flatMap Read.toBytes)
    let run := pipeline.run { reads, fails := false } {}
    (∃ stats, run.result = .ok stats ∧ stats.blank = input.countP pipeline.passesOver ∧
      (stats.blank = input.countP Record.isBlank ↔
        ∀ record ∈ input, Record.isBlank record = true → pipeline.recognizes record = true)) ∧
    (∃ lines : List Bytes, run.sink.taken.toList = lines.flatten ∧ (∀ line ∈ lines, line ≠ []) ∧
      lines = (input.filter (!pipeline.passesOver ·)).map
        fun record => (pipeline.verdict record).line) ∧
    (∀ record, pipeline.recognizes record = false → pipeline.verdict record = .malformed) ∧
    ∀ limit, let other := { pipeline with options.maxRecordBytes := limit }
      (∀ record ∈ input, pipeline.passesOver record = other.passesOver record) ↔
        ∀ record ∈ input, Record.isBlank record = true →
          pipeline.recognizes record = other.recognizes record := by
  intro input run
  have sound : ({} : Sink).IsSound := ⟨rfl, rfl⟩
  have result := (pipeline.run_of_isSound { reads, fails := false } sound).2
  refine ⟨⟨Verdict.stats (input.map pipeline.verdict), result, pipeline.count_skipped input, ?_⟩,
    ⟨pipeline.lines input, pipeline.taken_run_of_reads reads, ?_,
      pipeline.lines_eq_map_filter input⟩,
    fun record => pipeline.verdict_of_not_recognizes, fun limit => ?_⟩
  · rw [Verdict.stats, pipeline.count_skipped]
    exact countP_and_eq_iff _ _ _
  · intro line hl
    have := (List.mem_filter.1 hl).2
    rwa [Bool.not_eq_true', List.isEmpty_eq_false_iff] at this
  · intro other
    refine forall₂_congr fun record _ => ?_
    rw [passesOver, passesOver]
    cases Record.isBlank record <;> simp

/-- The limit decides whether a no-break space, of two bytes, is blank: within the limit it is
passed over, and past it it is answered as a malformed record. -/
theorem line_of_long_blank :
    let pipeline := fun limit : Nat =>
      ({ evaluator := .ofPolicy .standard, options.maxRecordBytes := limit } : Pipeline)
    let source : Source := ⟨[.bytes 0xC2 [0xA0, 0x0A]], false⟩
    Record.isBlank [0xC2, 0xA0] = true ∧
      ((pipeline 2).run source {}).result = .ok { records := 1, blank := 1 } ∧
      ((pipeline 2).run source {}).sink.taken.toList = [] ∧
      ((pipeline 1).run source {}).result =
        .ok { records := 1, malformed := 1, unauthorized := 1 } ∧
      ((pipeline 1).run source {}).sink.taken.toList = Utf8.encode "unauthorized\n" := by
  simp only [result_run, sink_run]
  decide +kernel

end Pipeline

end AccessStream

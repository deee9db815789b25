import AccessStream.Proofs.Stream.Cut

/-!
# Blanks behind records

Blanks behind a record change nothing in what it holds: a blank record stays blank, an object stays
the same object, and what was neither stays neither, although it may be refused for another fault
(`Record.toOption_decode_append`). So it does not matter whether the lines of an input end with a
line feed alone or with a carriage return before it, unless the carriage return takes a record past
the limit (`Pipeline.run_of_carriage_returns`).
-/

namespace AccessStream

open Json (Blanks)
open Utf8 (ofChars)

/-- The byte that may stand before the line feed at the end of a line. -/
def carriageReturn : UInt8 := 0x0D

/-! ## White space -/

theorem whiteSpaceForm_concat_iff {record : Bytes} {byte : UInt8} (h : byte ∈ asciiBlanks) :
    WhiteSpaceForm (record ++ [byte]) ↔ WhiteSpaceForm record := by
  obtain ⟨white, code⟩ := encodeChar_of_asciiBlank h
  have ascii : (Char.ofNat byte.toNat).toNat < 0x80 := by
    simp only [asciiBlanks, List.mem_cons, List.not_mem_nil, or_false] at h
    rcases h with rfl | rfl | rfl | rfl | rfl <;> decide
  have byte_eq : [byte] = [UInt8.ofNat (Char.ofNat byte.toNat).toNat] := by
    rw [← code, Utf8.encodeChar_of_lt ascii]
  constructor
  · rintro ⟨text, all, written⟩
    rw [Utf8.encode_eq_flatMap, byte_eq] at written
    obtain ⟨front, split, rfl⟩ := Utf8.exists_of_ofChars_eq_concat ascii written.symm
    refine ⟨String.ofList front, fun c inside => all c ?_, (Utf8.encode_ofList front).symm⟩
    rw [String.toList_ofList] at inside
    rw [split]
    exact List.mem_append_left _ inside
  · rintro ⟨text, all, rfl⟩
    refine ⟨String.ofList (text.toList ++ [Char.ofNat byte.toNat]), fun c inside => ?_, ?_⟩
    · rw [String.toList_ofList] at inside
      rcases List.mem_append.1 inside with old | new
      · exact all c old
      · exact List.mem_singleton.1 new ▸ white
    · rw [Utf8.encode_ofList, Utf8.ofChars_append, Utf8.ofChars_cons, Utf8.ofChars_nil,
        List.append_nil, code, Utf8.encode_eq_flatMap, ofChars]

theorem whiteSpaceForm_append_iff {record blanks : Bytes}
    (h : blanks.all asciiBlanks.contains = true) :
    WhiteSpaceForm (record ++ blanks) ↔ WhiteSpaceForm record := by
  induction blanks generalizing record with
  | nil => rw [List.append_nil]
  | cons byte blanks ih =>
    rw [List.all_cons, Bool.and_eq_true, List.contains_iff_mem] at h
    rw [List.append_cons, ih h.2, whiteSpaceForm_concat_iff h.1]

/-! ## Objects -/

/-- Blanks behind an object are blanks behind its closing brace. -/
theorem objectForm_append_iff {record blanks : Bytes} (h : Blanks blanks)
    {members : List (String × String)} :
    Json.ObjectForm (record ++ blanks) members ↔ Json.ObjectForm record members := by
  constructor
  · rintro ⟨before, content, after, hb, inside, ha, split⟩
    have regrouped : record ++ blanks = (before ++ 0x7B :: content) ++ [0x7D] ++ after := by
      simp [split]
    rcases List.append_eq_append_iff.1 regrouped with ⟨more, object, blanks_eq⟩ | ⟨more, rfl, rfl⟩
    · rcases List.eq_nil_or_concat more with rfl | ⟨more, byte, rfl⟩
      · refine ⟨before, content, [], hb, inside, .nil, ?_⟩
        simpa using object.symm
      · -- The closing brace cannot be one of the blanks.
        rw [List.concat_eq_append, ← List.append_assoc] at object
        obtain rfl : 0x7D = byte := (List.cons.inj (List.append_inj' object rfl).2).1
        refine absurd ?_ h.closingBrace_not_mem
        simp [blanks_eq]
    · refine ⟨before, content, more, hb, inside, ?_, by simp⟩
      exact fun byte found => ha byte (List.mem_append_left blanks found)
  · rintro ⟨before, content, after, hb, inside, ha, rfl⟩
    exact ⟨before, content, after ++ blanks, hb, inside, ha.append h, by simp⟩

/-- Blanks behind a record change nothing in what it holds, if it holds anything. -/
theorem Record.toOption_decode_append {record blanks : Bytes} (h : Blanks blanks) :
    (decode (record ++ blanks)).toOption = (decode record).toOption := by
  have ok_iff : ∀ {input : Bytes} {found : Option AttributeSet},
      (decode input).toOption = some found ↔ decode input = .ok found := by
    intro input found
    cases decode input <;> simp [Except.toOption]
  refine Option.ext fun found => ?_
  rw [ok_iff, ok_iff]
  cases found with
  | none =>
    rw [decode_eq_none_iff, decode_eq_none_iff, whiteSpaceForm_append_iff (asciiBlanks_of_blanks h)]
  | some set => simp only [decode_eq_some_iff, objectForm_append_iff h]

/-! ## Runs -/

namespace Pipeline

variable (pipeline : Pipeline)

/-- The verdict on a record within the limit depends on what it holds, and on whether it holds
anything. -/
theorem verdict_of_fits {record : Bytes} (fits : record.length ≤ pipeline.options.maxRecordBytes) :
    pipeline.verdict record = (Record.decode record).toOption.elim .malformed fun found =>
      found.elim .skipped fun set => .decided (pipeline.evaluator.decide (Request.ofSet set)) := by
  rw [verdict, if_pos fits]
  rcases Record.decode record with error | _ | set <;> rfl

/-- Blanks behind a record change its verdict only if they take it past the limit. -/
theorem verdict_append_blanks {record blanks : Bytes} (h : Blanks blanks)
    (clear : record.length ≤ pipeline.options.maxRecordBytes →
      (record ++ blanks).length ≤ pipeline.options.maxRecordBytes) :
    pipeline.verdict (record ++ blanks) = pipeline.verdict record := by
  by_cases fits : record.length ≤ pipeline.options.maxRecordBytes
  · rw [pipeline.verdict_of_fits fits, pipeline.verdict_of_fits (clear fits),
      Record.toOption_decode_append h]
  · have longer : ¬ (record ++ blanks).length ≤ pipeline.options.maxRecordBytes := by
      rw [List.length_append]
      omega
    rw [verdict, verdict, if_neg fits, if_neg longer, List.all_append, asciiBlanks_of_blanks h,
      Bool.and_true]

/-- Runs over records of the same verdicts write and flush the same and come to the same result. -/
theorem run_congr (source source' : Source) (fails : source'.fails = source.fails)
    (same : source'.records.map pipeline.verdict = source.records.map pipeline.verdict)
    (sink : Sink) :
    (pipeline.run source' sink).sink = (pipeline.run source sink).sink ∧
      (pipeline.run source' sink).result = (pipeline.run source sink).result := by
  have lines_eq : ∀ input : List Bytes, pipeline.lines input =
      ((input.map pipeline.verdict).map Verdict.line).filter (!·.isEmpty) := by
    intro input
    rw [lines, List.map_map]
    rfl
  have lines : pipeline.lines source'.records = pipeline.lines source.records := by
    rw [lines_eq, lines_eq, same]
  simp only [sink_run, result_run, lines, same, fails, and_self]

/-- An input whose lines end with a carriage return and a line feed is answered as the one whose
lines end with a line feed alone: the same is written and flushed and counted, whatever the records
are, if none of them is exactly as long as the limit. -/
theorem run_of_carriage_returns {lines : List Bytes} (ended : ∀ line ∈ lines, lineFeed ∉ line)
    (clear : ∀ line ∈ lines, line.length ≠ pipeline.options.maxRecordBytes)
    {reads returned : List Read}
    (input : reads.flatMap Read.toBytes = lines.flatMap (· ++ [lineFeed]))
    (input' : returned.flatMap Read.toBytes = lines.flatMap (· ++ [carriageReturn, lineFeed])) :
    let run := pipeline.run { reads, fails := false } {}
    let run' := pipeline.run { reads := returned, fails := false } {}
    run'.sink = run.sink ∧ ∃ stats, run.result = .ok stats ∧ run'.result = .ok stats := by
  intro run run'
  have found : records (reads.flatMap Read.toBytes) = lines := by
    have all := records_lines ended []
    rwa [List.append_nil, records_nil, List.append_nil, ← input] at all
  have found' : records (returned.flatMap Read.toBytes) = lines.map (· ++ [carriageReturn]) := by
    have ended' : ∀ line ∈ lines.map (· ++ [carriageReturn]), lineFeed ∉ line := by
      intro line marked
      obtain ⟨record, listed, rfl⟩ := List.mem_map.1 marked
      simpa using ⟨ended record listed, by decide⟩
    have all := records_lines ended' []
    rw [List.append_nil, records_nil, List.append_nil, List.flatMap_map] at all
    rw [input', ← all]
    simp
  have verdicts : (lines.map (· ++ [carriageReturn])).map pipeline.verdict =
      lines.map pipeline.verdict := by
    rw [List.map_map]
    refine List.map_congr_left fun line listed => ?_
    refine pipeline.verdict_append_blanks (by simp [Blanks, carriageReturn]) fun fits => ?_
    have other := clear line listed
    rw [List.length_append, List.length_singleton]
    omega
  let source : Source := { reads, fails := false }
  let source' : Source := { reads := returned, fails := false }
  have same : source'.records.map pipeline.verdict = source.records.map pipeline.verdict := by
    show (records (returned.flatMap Read.toBytes)).map pipeline.verdict =
      (records (reads.flatMap Read.toBytes)).map pipeline.verdict
    rw [found, found', verdicts]
  obtain ⟨sink, result⟩ := pipeline.run_congr source source' rfl same {}
  have sound : ({} : Sink).IsSound := ⟨rfl, rfl⟩
  have ended := (pipeline.run_of_isSound source sound).2
  exact ⟨sink, _, ended, result.trans ended⟩

/-- An object, white space of Unicode, an object that is cut inside of a key, a byte that is no text,
and blanks past the limit. -/
theorem run_of_carriage_returns_of_broken :
    let pipeline : Pipeline :=
      { evaluator := ⟨Policy.standard.rules, .deny⟩, options.maxRecordBytes := 8 }
    let lines := [Utf8.encode "\x7b\x7d", Utf8.encode "\u00A0", Utf8.encode "\x7b\"a", [0xFF],
      List.replicate 9 0x20]
    let text := lines.flatMap (· ++ [carriageReturn, lineFeed])
    let reads : List Read := [.bytes 0x7B (text.tail.take 4), .interrupted, .bytes 0xA0 (text.drop 6)]
    let run := pipeline.run { reads, fails := false } {}
    reads.flatMap Read.toBytes = text ∧
      run.sink.taken.toList = Utf8.encode "unauthorized\nunauthorized\nunauthorized\n" ∧
      run.result = .ok { records := 5, blank := 2, malformed := 2, unauthorized := 3 } := by
  intro pipeline lines text reads run
  have input' : reads.flatMap Read.toBytes = text := by decide +kernel
  have ended : ∀ line ∈ lines, lineFeed ∉ line := by decide +kernel
  have clear : ∀ line ∈ lines, line.length ≠ pipeline.options.maxRecordBytes := by decide +kernel
  let plain : List Read := [.bytes 0x7B (lines.flatMap (· ++ [lineFeed])).tail]
  have input : plain.flatMap Read.toBytes = lines.flatMap (· ++ [lineFeed]) := by decide +kernel
  obtain ⟨sink, stats, result, result'⟩ := pipeline.run_of_carriage_returns ended clear input input'
  have written : (pipeline.run { reads := plain, fails := false } {}).sink.taken.toList =
      Utf8.encode "unauthorized\nunauthorized\nunauthorized\n" := by
    rw [sink_run]
    decide +kernel
  have counted : (pipeline.run { reads := plain, fails := false } {}).result =
      .ok { records := 5, blank := 2, malformed := 2, unauthorized := 3 } := by
    rw [result_run]
    decide +kernel
  refine ⟨input', ?_, result'.trans (result.symm.trans counted)⟩
  rw [← written]
  exact congrArg (·.taken.toList) sink

/-- A record that is exactly as long as the limit does not fit with a carriage return behind it. -/
example :
    let pipeline : Pipeline :=
      { evaluator := ⟨Policy.standard.rules, .allow⟩, options.maxRecordBytes := 2 }
    pipeline.verdict [0x7B, 0x7D] ≠ .malformed ∧
      pipeline.verdict [0x7B, 0x7D, carriageReturn] = .malformed := by
  decide +kernel

end Pipeline

end AccessStream

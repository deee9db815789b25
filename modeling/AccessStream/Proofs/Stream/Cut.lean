import AccessStream.Proofs.Json.Cut
import AccessStream.Proofs.Stream.Blanks

/-!
# Records cut short

An input may end in the middle of a record. What is left of an object of strings is white space if
the object has not begun, and the same object if only blanks are missing behind its closing brace;
anything in between is refused because it ends too early. So a pipeline never authorizes a request
of which it has not seen the end (`Pipeline.cut_record`).
-/

namespace AccessStream

open Json (Blanks)

theorem asciiBlanks_of_blanks {bytes : Bytes} (h : Blanks bytes) :
    bytes.all asciiBlanks.contains = true := by
  rw [List.all_eq_true]
  intro byte hb
  rw [List.contains_iff_mem, asciiBlanks]
  rcases h byte hb with rfl | rfl | rfl | rfl <;> decide

theorem Json.Blanks.take {bytes : Bytes} (h : Blanks bytes) (size : Nat) :
    Blanks (bytes.take size) :=
  fun byte hb => h byte (List.mem_of_mem_take hb)

theorem Json.Blanks.openingBrace_not_mem {bytes : Bytes} (h : Blanks bytes) : 0x7B ∉ bytes := by
  intro found
  rcases h 0x7B found with same | same | same | same <;> cases same

theorem Json.Blanks.closingBrace_not_mem {bytes : Bytes} (h : Blanks bytes) : 0x7D ∉ bytes := by
  intro found
  rcases h 0x7D found with same | same | same | same <;> cases same

namespace Record

theorem decode_of_blanks {record : Bytes} (h : Blanks record) : decode record = .ok none := by
  rw [decode_eq_none_iff, ← isBlank_eq_true_iff]
  exact isBlank_of_asciiBlanks (asciiBlanks_of_blanks h)

/-- A record that begins an object and does not end it is refused for its end. -/
theorem decode_of_open {first second : Bytes} {members : List (String × String)}
    (written : Json.ObjectForm (first ++ second) members) (opened : 0x7B ∈ first)
    (unclosed : 0x7D ∈ second) : decode first = .error (.json .truncated first) := by
  have solid : isBlank first ≠ true := by
    intro blank
    exact brace_not_mem_of_whiteSpaceForm (isBlank_eq_true_iff.1 blank) opened
  rcases Json.readObject_of_append (Json.readObject_eq_ok_iff.2 written) with cut | blanks
  · rw [decode, if_neg solid, cut]
  · exact absurd unclosed blanks.closingBrace_not_mem

/-- How many bytes stand before the first opening brace. -/
def openedAt (record : Bytes) : Nat := record.idxOf 0x7B

/-- How many bytes there are up to the last closing brace, which is one of them. -/
def closedAt (record : Bytes) : Nat := record.length - record.reverse.idxOf 0x7D

section Object

variable {record : Bytes} {members : List (String × String)}

/-- The braces of an object are the first opening and the last closing one. -/
theorem exists_braces (written : Json.ObjectForm record members) :
    ∃ before content after, Blanks before ∧ Json.ContentForm content members ∧ Blanks after ∧
      record = before ++ 0x7B :: (content ++ 0x7D :: after) ∧
      openedAt record = before.length ∧ closedAt record = before.length + content.length + 2 := by
  obtain ⟨before, content, after, hb, inside, ha, split⟩ := written
  refine ⟨before, content, after, hb, inside, ha, split, ?_, ?_⟩
  · rw [openedAt, split, List.idxOf_append_of_notMem hb.openingBrace_not_mem,
      List.idxOf_cons_self, Nat.add_zero]
  · have behind : record.reverse =
        after.reverse ++ 0x7D :: (before ++ 0x7B :: content).reverse := by
      simp [split]
    have absent : 0x7D ∉ after.reverse := fun found =>
      ha.closingBrace_not_mem (List.mem_reverse.1 found)
    rw [closedAt, behind, List.idxOf_append_of_notMem absent, List.idxOf_cons_self, split]
    simp only [List.length_append, List.length_cons, List.length_reverse]
    omega

theorem blanks_take_openedAt (written : Json.ObjectForm record members) {size : Nat}
    (outside : size ≤ openedAt record) : Blanks (record.take size) := by
  obtain ⟨before, content, after, hb, -, -, split, opened, -⟩ := exists_braces written
  rw [opened] at outside
  rw [split, List.take_append_of_le_length outside]
  exact hb.take size

theorem mem_take_of_openedAt_lt (written : Json.ObjectForm record members) {size : Nat}
    (inside : openedAt record < size) : 0x7B ∈ record.take size := by
  obtain ⟨before, content, after, -, -, -, split, opened, -⟩ := exists_braces written
  obtain ⟨more, rfl⟩ : ∃ more, size = before.length + (more + 1) :=
    ⟨size - before.length - 1, by omega⟩
  rw [split, List.take_length_add_append]
  exact List.mem_append_right _ List.mem_cons_self

theorem mem_drop_of_lt_closedAt (written : Json.ObjectForm record members) {size : Nat}
    (unclosed : size < closedAt record) : 0x7D ∈ record.drop size := by
  obtain ⟨before, content, after, -, -, -, split, -, closed⟩ := exists_braces written
  have regrouped : record = (before ++ 0x7B :: content) ++ 0x7D :: after := by simp [split]
  have le : size ≤ (before ++ 0x7B :: content).length := by
    rw [List.length_append, List.length_cons]
    omega
  rw [regrouped, List.drop_append_of_le_length le]
  exact List.mem_append_right _ List.mem_cons_self

/-- Behind the closing brace only blanks are cut off. -/
theorem objectForm_take (written : Json.ObjectForm record members) {size : Nat}
    (closed : closedAt record ≤ size) : Json.ObjectForm (record.take size) members := by
  obtain ⟨before, content, after, hb, inside, ha, split, -, closed_eq⟩ := exists_braces written
  let object := before ++ 0x7B :: (content ++ [0x7D])
  have regrouped : record = object ++ after := by simp [split, object]
  have le : object.length ≤ size := by
    simp only [object, List.length_append, List.length_cons, List.length_nil]
    omega
  refine ⟨before, content, after.take (size - object.length), hb, inside, ha.take _, ?_⟩
  rw [regrouped, List.take_append, List.take_of_length_le le]
  simp [object]

/-- What is read of the first bytes of a record: nothing before the opening brace, the end that comes
too early up to the closing one, and the whole object behind it. -/
theorem decode_take (written : Json.ObjectForm record members) (size : Nat) :
    decode (record.take size) =
      if size ≤ openedAt record then .ok none
      else if size < closedAt record then .error (.json .truncated (record.take size))
      else .ok (some (AttributeSet.ofList members)) := by
  by_cases outside : size ≤ openedAt record
  · rw [if_pos outside]
    exact decode_of_blanks (blanks_take_openedAt written outside)
  rw [if_neg outside]
  by_cases inside : size < closedAt record
  · have whole : Json.ObjectForm (record.take size ++ record.drop size) members := by
      rwa [List.take_append_drop]
    rw [if_pos inside]
    exact decode_of_open whole (mem_take_of_openedAt_lt written (Nat.lt_of_not_le outside))
      (mem_drop_of_lt_closedAt written inside)
  · rw [if_neg inside, decode_eq_some_iff]
    exact ⟨members, objectForm_take written (Nat.le_of_not_lt inside), rfl⟩

end Object

end Record

namespace Pipeline

variable (pipeline : Pipeline)

theorem verdict_of_blanks {record : Bytes} (h : Blanks record) :
    pipeline.verdict record = .skipped := by
  have ascii := asciiBlanks_of_blanks h
  rw [verdict_eq_skipped_iff, recognizes, ascii, Bool.or_true]
  exact ⟨Record.isBlank_of_asciiBlanks ascii, rfl⟩

theorem verdict_of_error {record : Bytes} {error : RecordError}
    (h : Record.decode record = .error error) : pipeline.verdict record = .malformed := by
  by_cases known : pipeline.recognizes record = true
  · rw [verdict]
    by_cases fits : record.length ≤ pipeline.options.maxRecordBytes
    · rw [if_pos fits, h]
    · have solid : ¬ record.all asciiBlanks.contains = true := by
        intro ascii
        have blank := Record.isBlank_of_asciiBlanks ascii
        rw [Record.decode, if_pos blank] at h
        cases h
      rw [if_neg fits, if_neg solid]
  · exact pipeline.verdict_of_not_recognizes (Bool.eq_false_iff.2 known)

/-- What follows the last line feed is one record, or nothing, for which nothing is written. -/
theorem flatMap_line_records {line : Bytes} (h : lineFeed ∉ line) :
    (records line).flatMap (fun record => (pipeline.verdict record).line) =
      (pipeline.verdict line).line := by
  by_cases done : line = []
  · rw [done, records_nil, pipeline.verdict_of_blanks Json.Blanks.nil]
    rfl
  · rw [records_of_no_line h done, List.flatMap_singleton]

theorem count_authorized_records {line : Bytes} (h : lineFeed ∉ line)
    (refused : pipeline.verdict line ≠ .decided .authorized) :
    ((records line).map pipeline.verdict).count (.decided .authorized) = 0 := by
  rw [List.count_eq_zero, List.mem_map]
  rintro ⟨record, found, authorized⟩
  by_cases done : line = []
  · rw [done, records_nil] at found
    cases found
  · rw [records_of_no_line h done, List.mem_singleton] at found
    exact refused (found ▸ authorized)

/-- Of the first bytes of a record that is an object, those before the object are blank, those that
reach into it are refused for their end, and those that reach behind its closing brace hold the same
attribute set. So where an input ends inside of the object, the records before have their lines, and
the last one has no line or that of a malformed record, and is not counted as authorized. -/
theorem cut_record {record : Bytes} {set : AttributeSet}
    (h : Record.decode record = .ok (some set)) :
    (∀ size, (Record.decode (record.take size)).mapError RecordError.kind =
      if size ≤ Record.openedAt record then .ok none
      else if size < Record.closedAt record then .error "eof"
      else .ok (some set)) ∧
    ∀ (pipeline : Pipeline) (earlier : List Bytes) (size : Nat) (reads : List Read),
      lineFeed ∉ record → (∀ line ∈ earlier, lineFeed ∉ line) → size < Record.closedAt record →
      reads.flatMap Read.toBytes = earlier.flatMap (· ++ [lineFeed]) ++ record.take size →
      let run := pipeline.run { reads, fails := false } {}
      run.sink.taken.toList = earlier.flatMap (fun record => (pipeline.verdict record).line) ++
        (if size ≤ Record.openedAt record then [] else Utf8.encode "unauthorized\n") ∧
      ∃ stats, run.result = .ok stats ∧
        stats.authorized = (earlier.map pipeline.verdict).count (.decided .authorized) := by
  obtain ⟨members, written, rfl⟩ := Record.decode_eq_some_iff.1 h
  have decoded := Record.decode_take written
  refine ⟨fun size => ?_, ?_⟩
  · rw [decoded size]
    split_ifs <;> rfl
  intro pipeline earlier size reads noFeed ended inside input run
  have noFeed' : lineFeed ∉ record.take size := fun found => noFeed (List.mem_of_mem_take found)
  have cut : pipeline.verdict (record.take size) =
      if size ≤ Record.openedAt record then .skipped else .malformed := by
    by_cases outside : size ≤ Record.openedAt record
    · rw [if_pos outside]
      exact pipeline.verdict_of_blanks (Record.blanks_take_openedAt written outside)
    · have refused := decoded size
      rw [if_neg outside, if_pos inside] at refused
      rw [if_neg outside]
      exact pipeline.verdict_of_error refused
  have refused : pipeline.verdict (record.take size) ≠ .decided .authorized := by
    rw [cut]
    split_ifs <;> simp
  have input_records :
      records (reads.flatMap Read.toBytes) = earlier ++ records (record.take size) := by
    rw [input, records_lines ended]
  constructor
  · have output := pipeline.taken_run_of_reads reads
    rw [flatten_lines, input_records, List.flatMap_append, pipeline.flatMap_line_records noFeed',
      cut] at output
    rw [output]
    split_ifs <;> rfl
  · have sound : ({} : Sink).IsSound := ⟨rfl, rfl⟩
    have result := (pipeline.run_of_isSound { reads, fails := false } sound).2
    refine ⟨_, result, ?_⟩
    show ((records (reads.flatMap Read.toBytes)).map pipeline.verdict).count _ = _
    rw [input_records, List.map_append, List.count_append,
      pipeline.count_authorized_records noFeed' refused, Nat.add_zero]

/-- A record that is cut inside of a character, between the halves of a surrogate pair, and behind
its closing brace; and an input that ends inside of it. -/
theorem cut_record_of_escapes :
    let record := Utf8.encode " \x7b\"é\": \"\\uD83D\\uDE00\"\x7d \t"
    let set := AttributeSet.ofList [("é", "😀")]
    let pipeline : Pipeline := { evaluator := .ofPolicy .standard }
    let reads : List Read := [.bytes 0x0A (record.take 9), .interrupted, .bytes 0x5C []]
    Record.decode record = .ok (some set) ∧
      (Record.decode (record.take 4)).mapError RecordError.kind = .error "eof" ∧
      (Record.decode (record.take 15)).mapError RecordError.kind = .error "eof" ∧
      (Record.decode (record.take 23)).mapError RecordError.kind = .ok (some set) ∧
      (pipeline.run { reads, fails := false } {}).sink.taken.toList =
        Utf8.encode "unauthorized\n" := by
  intro record set pipeline reads
  have h : Record.decode record = .ok (some set) := by decide +kernel
  have opened : Record.openedAt record = 1 := by decide +kernel
  have closed : Record.closedAt record = 23 := by decide +kernel
  obtain ⟨decoded, output⟩ := cut_record h
  rw [opened, closed] at decoded output
  refine ⟨h, decoded 4, decoded 15, decoded 23, ?_⟩
  exact (output pipeline [[]] 10 reads (by decide +kernel) (by decide) (by decide)
    (by decide +kernel)).1

end Pipeline

end AccessStream

import AccessStream.Proofs.AttributeSet.Written
import AccessStream.Proofs.Stream.Emission
import Mathlib.Data.List.Count

/-!
# Requests written as records

What is written for an attribute set is one line, and reading gives the set back
(`AttributeSet.decode_toRecord`). So a pipeline answers attribute sets that are written one on a
line, if none is longer than the limit, by the decisions on them, line by line
(`Pipeline.run_of_toRecord`).
-/

namespace AccessStream

namespace AttributeSet

/-- What is written for an attribute set is one line. -/
theorem lineFeed_not_mem_toRecord (set : AttributeSet) : lineFeed ∉ Utf8.encode set.toRecord := by
  rw [toRecord_eq]
  intro feed
  have ascii : '\n'.toNat < 0x80 := by decide
  have inside := (Utf8.ofNat_mem_ofChars_iff ascii).1 feed
  rcases List.mem_cons.1 inside with brace | inside
  · exact absurd brace (by decide)
  · exact absurd (printable_of_mem_writeEntries inside) (by decide)

end AttributeSet

namespace Verdict

theorem line_decided (decision : Decision) : (decided decision).line = decision.line := by
  cases decision <;> rfl

/-- Where there are only decisions, only they are counted. -/
theorem stats_decided (decisions : List Decision) :
    stats (decisions.map decided) =
      { records := decisions.length
        blank := 0
        malformed := 0
        authorized := decisions.count .authorized
        unauthorized := decisions.count .unauthorized } := by
  have injective : Function.Injective decided := fun _ _ same => decided.inj same
  have none : ∀ verdict, (∀ decision, verdict ≠ decided decision) →
      (decisions.map decided).count verdict = 0 := by
    intro verdict other
    rw [List.count_eq_zero, List.mem_map]
    rintro ⟨decision, -, same⟩
    exact other decision same.symm
  rw [stats, none skipped (by simp), none malformed (by simp), List.length_map,
    List.count_map_of_injective _ _ injective, List.count_map_of_injective _ _ injective,
    Nat.add_zero]

end Verdict

namespace Pipeline

variable (pipeline : Pipeline)

theorem verdict_toRecord {set : AttributeSet}
    (fits : (Utf8.encode set.toRecord).length ≤ pipeline.options.maxRecordBytes) :
    pipeline.verdict (Utf8.encode set.toRecord) =
      .decided (pipeline.evaluator.decide (Request.ofSet set)) := by
  rw [verdict, if_pos fits, set.decode_toRecord]

/-- What is written for an attribute set has no line feed and is read as the set. So a run over
attribute sets that are written one on a line and fit the limit makes one decision for each, which
is that of the evaluator on the set, writes its name on a line, and passes over no record and refuses
none. -/
theorem run_of_toRecord (pipeline : Pipeline) :
    (∀ set : AttributeSet, lineFeed ∉ Utf8.encode set.toRecord ∧
      Record.decode (Utf8.encode set.toRecord) = .ok (some set)) ∧
    ∀ (sets : List AttributeSet) (reads : List Read),
      (∀ set ∈ sets, (Utf8.encode set.toRecord).length ≤ pipeline.options.maxRecordBytes) →
      (let input := reads.flatMap Read.toBytes
        let lines := sets.flatMap fun set => Utf8.encode set.toRecord ++ [lineFeed]
        input = lines ∨ input ++ [lineFeed] = lines) →
      let run := pipeline.run { reads, fails := false } {}
      let decisions := sets.map fun set => pipeline.evaluator.decide (Request.ofSet set)
      run.sink.taken.toList =
          decisions.flatMap (fun decision => Utf8.encode decision.name ++ [lineFeed]) ∧
        run.result = .ok
          { records := sets.length
            blank := 0
            malformed := 0
            authorized := decisions.count .authorized
            unauthorized := decisions.count .unauthorized } := by
  refine ⟨fun set => ⟨set.lineFeed_not_mem_toRecord, set.decode_toRecord⟩, ?_⟩
  intro sets reads fits input run decisions
  have noFeed : ∀ line ∈ sets.map fun set => Utf8.encode set.toRecord,
      lineFeed ∉ line ∧ line ≠ [] := by
    intro line hl
    obtain ⟨set, -, rfl⟩ := List.mem_map.1 hl
    refine ⟨set.lineFeed_not_mem_toRecord, ?_⟩
    rw [set.toRecord_eq, Utf8.ofChars_cons_of_lt (by decide)]
    exact List.cons_ne_nil _ _
  have found : records (reads.flatMap Read.toBytes) =
      sets.map fun set => Utf8.encode set.toRecord := by
    refine records_of_lines noFeed ?_
    simpa only [List.flatMap_map] using input
  have verdicts : (records (reads.flatMap Read.toBytes)).map pipeline.verdict =
      decisions.map Verdict.decided := by
    rw [found, List.map_map, List.map_map]
    exact List.map_congr_left fun set hs => pipeline.verdict_toRecord (fits set hs)
  constructor
  · have output := pipeline.taken_run_of_reads reads
    rw [flatten_lines, ← List.flatMap_map pipeline.verdict Verdict.line, verdicts,
      List.flatMap_map] at output
    rw [output]
    exact List.flatMap_congr fun decision _ => Verdict.line_decided decision
  · have sound : ({} : Sink).IsSound := ⟨rfl, rfl⟩
    have result := (pipeline.run_of_isSound { reads, fails := false } sound).2
    have counted : Verdict.stats ((records (reads.flatMap Read.toBytes)).map pipeline.verdict) = _ :=
      (congrArg Verdict.stats verdicts).trans (Verdict.stats_decided decisions)
    have size : decisions.length = sets.length := List.length_map _
    rw [← size, ← counted]
    exact result

/-- An administrator, and a key of control characters with a value outside of ASCII, in two pieces
and without a line feed at the end. -/
theorem run_of_toRecord_two :
    let evaluator : Evaluator := ⟨Policy.standard.rules, Policy.standard.defaultEffect⟩
    let pipeline : Pipeline := { evaluator, options.maxRecordBytes := 51 }
    let first := AttributeSet.ofList [("azure.authenticated", "true"), ("azure.role", "admin")]
    let second := AttributeSet.ofList [("\n\u0001\"", "é\\😀\r")]
    let text := Utf8.encode first.toRecord ++ lineFeed :: Utf8.encode second.toRecord
    let reads := [Read.bytes 0x7B (text.tail.take 53), .interrupted, .bytes 0x5C (text.drop 55)]
    let run := pipeline.run { reads, fails := false } {}
    run.sink.taken.toList = Utf8.encode "authorized\nunauthorized\n" ∧
      run.result = .ok { records := 2, authorized := 1, unauthorized := 1 } := by
  intro evaluator pipeline first second text reads run
  have fits : ∀ set ∈ [first, second],
      (Utf8.encode set.toRecord).length ≤ pipeline.options.maxRecordBytes := by
    decide +kernel
  have input : reads.flatMap Read.toBytes ++ [lineFeed] =
      [first, second].flatMap fun set => Utf8.encode set.toRecord ++ [lineFeed] := by
    decide +kernel
  have answered := (run_of_toRecord pipeline).2 [first, second] reads fits (.inr input)
  have decisions : [first, second].map (fun set => pipeline.evaluator.decide (Request.ofSet set)) =
      [.authorized, .unauthorized] := by decide +kernel
  simp only [decisions] at answered
  exact ⟨answered.1.trans (by decide +kernel), answered.2⟩

end Pipeline

end AccessStream

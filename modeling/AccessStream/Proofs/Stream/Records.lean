import AccessStream.Proofs.Text.Utf8
import AccessStream.Stream.Source
import Mathlib.Data.List.TakeWhile
import Mathlib.Tactic.SplitIfs

/-!
# The records of an input

An input is cut into records at its line feeds (`records`), and what is left of a record when the
limit is known is its frame (`Frame.ofRecord`). The place of the first line feed is unique
(`line_unique`), and a piece of the input is split there.
-/

namespace AccessStream

/-- The records of an input: its pieces between line feeds, without the last one if that is
empty. -/
def records (input : Bytes) : List Bytes :=
  let pieces := input.splitOn lineFeed
  if pieces.getLast? = some [] then pieces.dropLast else pieces

/-- The records of an input that are ended by a line feed. -/
def endedRecords (input : Bytes) : List Bytes := (input.splitOn lineFeed).dropLast

/-- The bytes of a text have a line feed if the text has one. -/
theorem lineFeed_mem_encode_iff {text : String} :
    lineFeed ∈ Utf8.encode text ↔ '\n' ∈ text.toList := by
  have ascii : '\n'.toNat < 0x80 := by decide
  rw [Utf8.encode_eq_flatMap]
  exact Utf8.ofNat_mem_ofChars_iff ascii

section Cut

variable {line rest : Bytes}

theorem records_nil : records [] = [] := by simp [records]

theorem records_of_no_line (h : lineFeed ∉ line) (some : line ≠ []) : records line = [line] := by
  simp [records, List.splitOn_eq_singleton h, some]

theorem records_line (h : lineFeed ∉ line) :
    records (line ++ lineFeed :: rest) = line :: records rest := by
  obtain ⟨piece, pieces, split⟩ := List.exists_cons_of_ne_nil (List.splitOn_ne_nil lineFeed rest)
  simp only [records, List.splitOn_append_cons_self_of_not_mem h, split,
    List.getLast?_cons_cons, List.dropLast_cons_cons]
  split_ifs <;> rfl

theorem records_lines {lines : List Bytes} (h : ∀ line ∈ lines, lineFeed ∉ line) (rest : Bytes) :
    records (lines.flatMap (· ++ [lineFeed]) ++ rest) = lines ++ records rest := by
  induction lines with
  | nil => rfl
  | cons line lines ih =>
    rw [List.forall_mem_cons] at h
    rw [List.flatMap_cons, List.append_assoc, List.append_assoc, List.singleton_append,
      records_line h.1, ih h.2, List.cons_append]

/-- Lines are the records of the input that consists of them, whether or not the last one is ended by
a line feed. -/
theorem records_of_lines {lines : List Bytes} (h : ∀ line ∈ lines, lineFeed ∉ line ∧ line ≠ [])
    {input : Bytes} (written : input = lines.flatMap (· ++ [lineFeed]) ∨
      input ++ [lineFeed] = lines.flatMap (· ++ [lineFeed])) : records input = lines := by
  have noFeed : ∀ line ∈ lines, lineFeed ∉ line := fun line hl => (h line hl).1
  rcases written with rfl | unended
  · have all := records_lines noFeed []
    rwa [List.append_nil, records_nil, List.append_nil] at all
  · rcases List.eq_nil_or_concat lines with rfl | ⟨before, last, rfl⟩
    · simp at unended
    · rw [List.concat_eq_append] at *
      have input_eq : input = before.flatMap (· ++ [lineFeed]) ++ last := by
        rw [List.flatMap_append, List.flatMap_singleton, ← List.append_assoc] at unended
        exact List.append_cancel_right unended
      obtain ⟨last_noFeed, last_some⟩ := h last (by simp)
      rw [input_eq, records_lines fun line hl => noFeed line (List.mem_append_left _ hl),
        records_of_no_line last_noFeed last_some]

theorem endedRecords_of_no_line (h : lineFeed ∉ line) : endedRecords line = [] := by
  simp [endedRecords, List.splitOn_eq_singleton h]

theorem endedRecords_line (h : lineFeed ∉ line) :
    endedRecords (line ++ lineFeed :: rest) = line :: endedRecords rest := by
  rw [endedRecords, List.splitOn_append_cons_self_of_not_mem h,
    List.dropLast_cons_of_ne_nil (List.splitOn_ne_nil lineFeed rest), endedRecords]

theorem ne_lineFeed_of_mem (h : lineFeed ∉ line) (byte : UInt8) (hb : byte ∈ line) :
    (byte != lineFeed) = true := by
  rw [bne_iff_ne]
  rintro rfl
  exact h hb

theorem splitLine_line (h : lineFeed ∉ line) :
    splitLine (line ++ lineFeed :: rest) = (line, some rest) := by
  have before := ne_lineFeed_of_mem h
  rw [splitLine, List.dropWhile_append_of_pos before, List.takeWhile_append_of_pos before]
  simp

theorem splitLine_of_no_line (h : lineFeed ∉ line) : splitLine line = (line, none) := by
  rw [splitLine, List.dropWhile_eq_nil_iff.2 (ne_lineFeed_of_mem h)]

/-- No line feed stands before the place where a piece is split. -/
theorem not_mem_of_splitLine {piece : Bytes} {after : Option Bytes}
    (h : splitLine piece = (line, after)) : lineFeed ∉ line := by
  by_cases found : lineFeed ∈ piece
  · obtain ⟨before, rest, rfl, noFeed⟩ := List.eq_append_cons_of_mem found
    rw [splitLine_line noFeed, Prod.mk.injEq] at h
    rwa [← h.1]
  · rw [splitLine_of_no_line found, Prod.mk.injEq] at h
    rwa [← h.1]

/-- The place of the first line feed is unique. -/
theorem line_unique {line' rest' : Bytes} (h : lineFeed ∉ line) (h' : lineFeed ∉ line')
    (same : line ++ lineFeed :: rest = line' ++ lineFeed :: rest') :
    line = line' ∧ rest = rest' := by
  have := congrArg splitLine same
  rw [splitLine_line h, splitLine_line h'] at this
  simpa using this

end Cut

/-! ## Frames of whole records -/

/-- The frame of a record of which all bytes are known. -/
def Frame.ofRecord (limit : Nat) (record : Bytes) : Frame :=
  if record.length ≤ limit then .complete record else .oversized (record.all Frame.isBlankByte)

end AccessStream

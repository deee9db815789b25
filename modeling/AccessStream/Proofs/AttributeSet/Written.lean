import AccessStream.Proofs.Json.Written
import AccessStream.Proofs.Record

/-!
# Attribute sets as JSON texts

What is written for an attribute set is an object of its entries, so reading gives the set back
(`decode_toRecord`) and sets with the same text are the same (`toRecord_injective`).
-/

namespace AccessStream.AttributeSet

open Utf8 (ofChars)

open Json (Value)

/-- The characters of some entries between two braces, the closing one included. -/
def writeEntries (entries : List (String × String)) : List Char :=
  Value.compactMembers (entries.map fun entry => (entry.1, .string entry.2))

theorem writeEntries_singleton (key value : String) :
    writeEntries [(key, value)] =
      Json.Quoted.write key ++ ':' :: Json.Quoted.write value ++ ['}'] :=
  rfl

theorem writeEntries_cons {entries : List (String × String)} (more : entries ≠ [])
    (key value : String) :
    writeEntries ((key, value) :: entries) =
      Json.Quoted.write key ++ ':' :: Json.Quoted.write value ++ ',' :: writeEntries entries := by
  cases entries with
  | nil => exact absurd rfl more
  | cons => rfl

theorem toRecord_eq (set : AttributeSet) :
    Utf8.encode set.toRecord = ofChars ('{' :: writeEntries set.entries) := by
  rw [toRecord, Value.toCompact, Utf8.encode_ofList]
  rfl

theorem memberForm_write (key value : String) :
    Json.MemberForm (ofChars (Json.Quoted.write key ++ ':' :: Json.Quoted.write value))
      (key, value) := by
  have form := Json.MemberForm.intro (Json.Quoted.stringForm_write key) .nil .nil
    (Json.Quoted.stringForm_write value)
  rw [Utf8.ofChars_append, Utf8.ofChars_cons_of_lt (by decide)]
  simpa using form

theorem membersForm_writeEntries {entries : List (String × String)} (some : entries ≠ []) :
    ∃ forms, Json.MembersForm forms entries ∧ ofChars (writeEntries entries) = forms ++ [0x7D] := by
  induction entries with
  | nil => exact absurd rfl some
  | cons entry entries ih =>
    obtain ⟨key, value⟩ := entry
    have member := memberForm_write key value
    by_cases last : entries = []
    · rw [last]
      refine ⟨_, .one .nil member .nil, ?_⟩
      rw [writeEntries_singleton, Utf8.ofChars_append]
      simp only [List.nil_append, List.append_nil]
      rfl
    · obtain ⟨forms, others, written⟩ := ih last
      have comma : ofChars (',' :: writeEntries entries) = 0x2C :: (forms ++ [0x7D]) := by
        rw [Utf8.ofChars_cons_of_lt (by decide), written]
        rfl
      refine ⟨_, .more .nil member .nil others, ?_⟩
      rw [writeEntries_cons last, Utf8.ofChars_append, comma]
      simp

/-- What is written for an attribute set is an object of its entries. -/
theorem objectForm_toRecord (set : AttributeSet) :
    Json.ObjectForm (Utf8.encode set.toRecord) set.entries := by
  rw [toRecord_eq, Utf8.ofChars_cons_of_lt (by decide)]
  by_cases empty : set.entries = []
  · exact ⟨[], [], [], .nil, empty ▸ .empty .nil, .nil, by rw [empty]; rfl⟩
  · obtain ⟨forms, members, written⟩ := membersForm_writeEntries empty
    exact ⟨[], forms, [], .nil, .members members, .nil, by rw [written]; rfl⟩

theorem printable_of_mem_writeEntries {entries : List (String × String)} {c : Char}
    (h : c ∈ writeEntries entries) : ' ' ≤ c := by
  induction entries with
  | nil =>
    obtain rfl : c = '}' := List.mem_singleton.1 h
    decide
  | cons entry entries ih =>
    obtain ⟨key, value⟩ := entry
    have pair : c ∈ Json.Quoted.write key ++ ':' :: Json.Quoted.write value → ' ' ≤ c := by
      intro inside
      rw [List.mem_append, List.mem_cons] at inside
      rcases inside with key | rfl | value
      · exact Json.Quoted.printable_of_mem_write key
      · decide
      · exact Json.Quoted.printable_of_mem_write value
    by_cases last : entries = []
    · rw [last, writeEntries_singleton, List.mem_append, List.mem_singleton] at h
      rcases h with inside | rfl
      · exact pair inside
      · decide
    · rw [writeEntries_cons last, List.mem_append, List.mem_cons] at h
      rcases h with inside | rfl | others
      · exact pair inside
      · decide
      · exact ih others

theorem decode_toRecord (set : AttributeSet) :
    Record.decode (Utf8.encode set.toRecord) = .ok (some set) :=
  Record.decode_eq_some_iff.2 ⟨set.entries, set.objectForm_toRecord, set.ofList_entries.symm⟩

theorem toRecord_injective {a b : AttributeSet} (h : a.toRecord = b.toRecord) : a = b := by
  have read := a.decode_toRecord
  rw [h, decode_toRecord, Except.ok.injEq, Option.some.injEq] at read
  exact read.symm

end AccessStream.AttributeSet

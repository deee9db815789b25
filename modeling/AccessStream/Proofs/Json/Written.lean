import AccessStream.Proofs.Fields
import AccessStream.Proofs.Json.Quoted

/-!
# Written strings

What is written for a text is one of the ways to write it as a JSON string
(`Quoted.stringForm_write`). Control characters are escaped, so none of them stands in what is
written, whatever the text is (`Quoted.printable_of_mem_write`).
-/

namespace AccessStream

open Utf8 (ofChars)

namespace Json.Quoted

theorem escapeForm_of_mem_shortEscapes {c mark : Char} (h : (c, mark) ∈ shortEscapes) :
    EscapeForm (ofChars [mark]) c := by
  simp only [shortEscapes, List.mem_cons, Prod.mk.injEq, List.not_mem_nil, or_false] at h
  rcases h with ⟨rfl, rfl⟩ | ⟨rfl, rfl⟩ | ⟨rfl, rfl⟩ | ⟨rfl, rfl⟩ | ⟨rfl, rfl⟩ | ⟨rfl, rfl⟩ |
    ⟨rfl, rfl⟩ <;> exact .letter (by decide)

theorem hexDigit_hexChar {n : Nat} (small : n < 16) :
    ∃ byte, String.utf8EncodeChar (hexChar n) = [byte] ∧ HexDigit byte n := by
  have digits : ∀ n < 16, (hexChar n).toNat < 0x80 ∧
      HexDigit (UInt8.ofNat (hexChar n).toNat) n := by
    unfold HexDigit
    decide
  obtain ⟨ascii, digit⟩ := digits n small
  exact ⟨_, Utf8.encodeChar_of_lt ascii, digit⟩

theorem escapeForm_of_control {c : Char} (control : c < ' ') :
    EscapeForm (ofChars ['u', '0', '0', hexChar (c.toNat / 16), hexChar (c.toNat % 16)]) c := by
  have small : c.toNat < 0x20 := control
  obtain ⟨first, first_eq, high⟩ := hexDigit_hexChar (n := c.toNat / 16) (by omega)
  obtain ⟨second, second_eq, low⟩ := hexDigit_hexChar (n := c.toNat % 16) (by omega)
  have zero : HexDigit 0x30 0 := .inl ⟨by decide, by decide, rfl⟩
  have written : ofChars ['u', '0', '0', hexChar (c.toNat / 16), hexChar (c.toNat % 16)] =
      0x75 :: [0x30, 0x30, first, second] := by
    simp only [Utf8.ofChars_cons, first_eq, second_eq]
    rfl
  have number : ((0 * 16 + 0) * 16 + c.toNat / 16) * 16 + c.toNat % 16 = c.toNat := by omega
  have unit : HexUnit [0x30, 0x30, first, second] c.toNat := number ▸ .intro zero zero high low
  rw [written]
  exact .unit unit

theorem charForm_writeChar (c : Char) : CharForm (ofChars (writeChar c)) c := by
  rw [writeChar]
  cases found : shortEscapes.lookup c with
  | some mark =>
    exact .escaped (escapeForm_of_mem_shortEscapes (Fields.mem_of_lookup found))
  | none =>
    by_cases control : c < ' '
    · simp only [if_pos control]
      exact .escaped (escapeForm_of_control control)
    · have other : ∀ entry ∈ shortEscapes, c ≠ entry.1 := by
        intro entry listed same
        have := List.lookup_eq_none_iff.1 found entry listed
        simp [same] at this
      have itself : CharForm (String.utf8EncodeChar c) c :=
        .plain (other ('"', '"') (by decide)) (other ('\\', '\\') (by decide))
          (Char.not_lt.1 control)
      simpa only [if_neg control, ofChars, List.flatMap_singleton] using itself

theorem textForm_write (cs : List Char) : TextForm (ofChars (cs.flatMap writeChar)) cs := by
  induction cs with
  | nil => exact .nil
  | cons c cs ih =>
    rw [List.flatMap_cons, Utf8.ofChars_append]
    exact .cons (charForm_writeChar c) ih

/-- What is written for a text is a JSON string of it. -/
theorem stringForm_write (text : String) : StringForm (ofChars (write text)) text := by
  refine ⟨_, textForm_write text.toList, ?_⟩
  rw [write, Utf8.ofChars_cons_of_lt (by decide), Utf8.ofChars_append]
  rfl

/-- No control character is written, so no line feed is. -/
theorem printable_of_mem_write {text : String} {c : Char} (h : c ∈ write text) : ' ' ≤ c := by
  have marks : ∀ entry ∈ shortEscapes, ' ' ≤ entry.2 := by decide
  have digits : ∀ n < 16, ' ' ≤ hexChar n := by decide
  have char : ∀ d, c ∈ writeChar d → ' ' ≤ c := by
    intro d inside
    rw [writeChar] at inside
    cases found : shortEscapes.lookup d with
    | some mark =>
      have printable := marks (d, mark) (Fields.mem_of_lookup found)
      simp only [found, List.mem_cons, List.not_mem_nil, or_false] at inside
      rcases inside with rfl | rfl
      · decide
      · exact printable
    | none =>
      rw [found] at inside
      by_cases control : d < ' '
      · have small : d.toNat < 0x20 := control
        simp only [if_pos control, List.mem_cons, List.not_mem_nil, or_false] at inside
        rcases inside with rfl | rfl | rfl | rfl | rfl | rfl
        · decide
        · decide
        · decide
        · decide
        · exact digits _ (by omega)
        · exact digits _ (by omega)
      · simp only [if_neg control, List.mem_singleton] at inside
        rw [inside]
        exact Char.not_lt.1 control
  rw [write, List.mem_cons, List.mem_append, List.mem_flatMap, List.mem_singleton] at h
  rcases h with rfl | ⟨d, -, inside⟩ | rfl
  · decide
  · exact char d inside
  · decide

end Json.Quoted

end AccessStream

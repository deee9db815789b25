import AccessStream.Proofs.Json.Value
import AccessStream.Proofs.Json.Written

/-!
# Documents on indented lines

What is written for a document on indented lines is one of the ways to write it, if each of its
numbers is written as itself (`Value.Writable`, `Value.documentForm_toPretty`).
-/

namespace AccessStream.Json.Value

open Utf8 (ofChars)

/-- A document whose numbers are written as themselves. -/
inductive Writable : Value → Prop where
  | null : Writable .null
  | bool (value : Bool) : Writable (.bool value)
  | number {number : Number} : NumberForm (ofChars number.write) number → Writable (.number number)
  | string (text : String) : Writable (.string text)
  | array {items : List Value} : (∀ item ∈ items, Writable item) → Writable (.array items)
  | object {members : List (String × Value)} :
      (∀ member ∈ members, Writable member.2) → Writable (.object members)

theorem writable_ofNat {n : Nat} (h : n ≤ Number.maxSignificand) : Writable (ofNat n) :=
  .number (Number.numberForm_write h)

theorem blanks_newLine (level : Nat) : Blanks (ofChars (newLine level)) := by
  intro byte inside
  rw [newLine, Utf8.ofChars_cons_of_lt (by decide), List.mem_cons] at inside
  rcases inside with rfl | space
  · exact .inr (.inr (.inl rfl))
  · obtain ⟨c, found, inside⟩ := List.mem_flatMap.1 space
    rw [(List.mem_replicate.1 found).2, Utf8.encodeChar_of_lt (by decide), List.mem_singleton]
      at inside
    exact .inl inside

theorem blanks_space : Blanks [0x20] := by
  intro byte inside
  exact .inl (List.mem_singleton.1 inside)

/-- The text of a value at any level of indentation is one of the ways to write it. -/
def WritesItself (value : Value) : Prop := ∀ level, Form (ofChars (prettyAt level value)) value

theorem itemsForm_prettyItems {items : List Value} (nonempty : items ≠ [])
    (h : ∀ item ∈ items, WritesItself item) (level : Nat) :
    ∃ content, ofChars (prettyItems level items) = content ++ [0x5D] ∧
      ItemsForm Form content items := by
  induction items with
  | nil => exact absurd rfl nonempty
  | cons item others ih =>
    rw [List.forall_mem_cons] at h
    have line := blanks_newLine (level + 1)
    have written := h.1 (level + 1)
    cases others with
    | nil =>
      refine ⟨_, ?_, .one line written (blanks_newLine level)⟩
      simp only [prettyItems, Utf8.ofChars_append]
      rfl
    | cons second others =>
      obtain ⟨content, content_eq, form⟩ := ih (List.cons_ne_nil _ _) h.2
      refine ⟨_, ?_, .more line written .nil form⟩
      rw [prettyItems, Utf8.ofChars_append, Utf8.ofChars_append,
        Utf8.ofChars_cons_of_lt (by decide), content_eq]
      · simp
      · exact List.cons_ne_nil _ _

theorem fieldsForm_prettyMembers {members : List (String × Value)} (nonempty : members ≠ [])
    (h : ∀ member ∈ members, WritesItself member.2) (level : Nat) :
    ∃ content, ofChars (prettyMembers level members) = content ++ [0x7D] ∧
      FieldsForm Form content members := by
  induction members with
  | nil => exact absurd rfl nonempty
  | cons member others ih =>
    rw [List.forall_mem_cons] at h
    obtain ⟨key, value⟩ := member
    have line := blanks_newLine (level + 1)
    have keyForm := Quoted.stringForm_write key
    have written := h.1 (level + 1)
    cases others with
    | nil =>
      refine ⟨_, ?_, .one line keyForm .nil blanks_space written (blanks_newLine level)⟩
      have brace : ofChars ['}'] = [0x7D] := rfl
      simp [prettyMembers, Utf8.ofChars_cons_of_lt, brace]
    | cons second others =>
      obtain ⟨content, content_eq, form⟩ := ih (List.cons_ne_nil _ _) h.2
      refine ⟨_, ?_, .more line keyForm .nil blanks_space written .nil form⟩
      rw [prettyMembers]
      · simp [Utf8.ofChars_cons_of_lt, content_eq]
      · exact List.cons_ne_nil _ _

theorem form_writeBool (value : Bool) : ScalarForm (ofChars (writeBool value)) (.bool value) := by
  cases value
  · exact .no
  · exact .yes

theorem Writable.writesItself {value : Value} (h : Writable value) : WritesItself value := by
  induction h with
  | null => exact fun _ => .scalar .null
  | bool value => exact fun _ => .scalar (form_writeBool value)
  | number form => exact fun _ => .scalar (.number form)
  | string text => exact fun _ => .scalar (.string (Quoted.stringForm_write text))
  | @array items _ ih =>
    intro level
    cases items with
    | nil => exact .emptyArray .nil
    | cons item items =>
      obtain ⟨content, content_eq, form⟩ := itemsForm_prettyItems (List.cons_ne_nil _ _) ih level
      rw [prettyAt, Utf8.ofChars_cons_of_lt (by decide), content_eq]
      · exact .array form
      · exact List.cons_ne_nil _ _
  | @object members _ ih =>
    intro level
    cases members with
    | nil => exact .emptyObject .nil
    | cons member members =>
      obtain ⟨content, content_eq, form⟩ := fieldsForm_prettyMembers (List.cons_ne_nil _ _) ih level
      rw [prettyAt, Utf8.ofChars_cons_of_lt (by decide), content_eq]
      · exact .object form
      · exact List.cons_ne_nil _ _

/-- What is written for a document is one of the ways to write it, also with a line end after it. -/
theorem Writable.documentForm_toPretty {value : Value} (h : Writable value) :
    DocumentForm (Utf8.encode value.toPretty) value ∧
      DocumentForm (Utf8.encode (value.toPretty ++ "\n")) value := by
  have form : Form (Utf8.encode value.toPretty) value := by
    rw [toPretty, Utf8.encode_ofList]
    exact h.writesItself 0
  have lineEnd : Blanks [0x0A] := by
    intro byte inside
    exact .inr (.inr (.inl (List.mem_singleton.1 inside)))
  refine ⟨⟨[], _, [], .nil, form, .nil, by simp⟩, ⟨[], _, [0x0A], .nil, form, lineEnd, ?_⟩⟩
  rw [Utf8.encode_eq_flatMap, String.toList_append, List.flatMap_append, ← Utf8.encode_eq_flatMap]
  rfl

/-! ## The end of the text -/

end AccessStream.Json.Value

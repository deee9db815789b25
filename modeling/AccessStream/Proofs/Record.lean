import AccessStream.Proofs.AttributeSet
import AccessStream.Proofs.Json.Object
import AccessStream.Proofs.Text.Blank
import AccessStream.Record

/-!
# What a record may be

A record is white space, or an object of strings, or it is refused. White space is meant in the wide
sense of Unicode here, while the blanks inside an object are those of JSON: a record of a single
no-break space asks nothing, and the same character around an object makes the record a bad one.
-/

namespace AccessStream

/-! ## White space -/

/-- The UTF-8 form of a text of white space; the empty text is one. -/
def WhiteSpaceForm (bytes : Bytes) : Prop :=
  ∃ text : String, (∀ c ∈ text.toList, c ∈ whiteSpace) ∧ bytes = Utf8.encode text

namespace Record

theorem isBlank_eq_true_iff {record : Bytes} : isBlank record = true ↔ WhiteSpaceForm record := by
  unfold isBlank
  constructor
  · intro h
    split at h
    · rename_i text decoded
      exact ⟨text, Text.isBlank_iff.1 h, Utf8.decode?_eq_some_iff.1 decoded⟩
    · cases h
  · rintro ⟨text, white, rfl⟩
    rw [Utf8.decode?_encode]
    exact Text.isBlank_iff.2 white

/-- The bytes of ASCII in white space are those of its characters. -/
theorem not_mem_of_whiteSpaceForm {record : Bytes} (h : WhiteSpaceForm record) {c : Char}
    (ascii : c.toNat < 0x80) (visible : c ∉ whiteSpace) : UInt8.ofNat c.toNat ∉ record := by
  obtain ⟨text, white, rfl⟩ := h
  intro inside
  rw [Utf8.encode_eq_flatMap] at inside
  exact visible (white c ((Utf8.ofNat_mem_ofChars_iff ascii).1 inside))

theorem brace_not_mem_of_whiteSpaceForm {record : Bytes} (h : WhiteSpaceForm record) :
    0x7B ∉ record :=
  not_mem_of_whiteSpaceForm h (c := '{') (by decide) (by decide)

/-- No object is white space, because of its braces. -/
theorem not_whiteSpaceForm_of_objectForm {record : Bytes} {members : List (String × String)}
    (h : Json.ObjectForm record members) : ¬ WhiteSpaceForm record := by
  intro white
  obtain ⟨before, content, after, -, -, -, rfl⟩ := h
  exact brace_not_mem_of_whiteSpaceForm white (List.mem_append_right _ List.mem_cons_self)

theorem decode_eq_none_iff {record : Bytes} : decode record = .ok none ↔ WhiteSpaceForm record := by
  rw [← isBlank_eq_true_iff]
  unfold decode
  split
  · rename_i blank
    simp [blank]
  · rename_i solid
    split
    · simp [solid]
    · simp [solid]

theorem decode_eq_some_iff {record : Bytes} {set : AttributeSet} :
    decode record = .ok (some set) ↔
      ∃ members, Json.ObjectForm record members ∧ set = AttributeSet.ofList members := by
  constructor
  · intro h
    unfold decode at h
    split at h
    · cases h
    split at h
    · cases h
    rename_i members read
    cases h
    exact ⟨members, Json.readObject_eq_ok_iff.1 read, rfl⟩
  · rintro ⟨members, written, rfl⟩
    have solid : isBlank record ≠ true := by
      rw [Ne, isBlank_eq_true_iff]
      exact not_whiteSpaceForm_of_objectForm written
    rw [decode, if_neg solid, Json.readObject_eq_ok_iff.2 written]

/-- A record is read as nothing exactly when it is white space, as an attribute set exactly when it
is an object of strings, where each key has the value of its last member, and is refused
otherwise. -/
theorem decode_accepts (record : Bytes) :
    (decode record = .ok none ↔ WhiteSpaceForm record) ∧
    (∀ set, decode record = .ok (some set) ↔
      ∃ members, Json.ObjectForm record members ∧
        ∀ key value, set.get? key = some value ↔ AttributeSet.IsLast members key value) ∧
    ((∃ fault, decode record = .error (.json fault record)) ↔
      ¬ WhiteSpaceForm record ∧ ¬ ∃ members, Json.ObjectForm record members) := by
  refine ⟨decode_eq_none_iff, fun set => ?_, ?_⟩
  · rw [decode_eq_some_iff]
    constructor
    · rintro ⟨members, written, rfl⟩
      exact ⟨members, written, fun key value => AttributeSet.get?_ofList_eq_some_iff⟩
    · rintro ⟨members, written, values⟩
      refine ⟨members, written, AttributeSet.ext_get? fun key => Option.ext fun value => ?_⟩
      rw [values, AttributeSet.get?_ofList_eq_some_iff]
  · constructor
    · rintro ⟨fault, refused⟩
      constructor
      · intro white
        rw [decode_eq_none_iff.2 white] at refused
        cases refused
      · rintro ⟨members, written⟩
        rw [decode_eq_some_iff.2 ⟨members, written, rfl⟩] at refused
        cases refused
    · rintro ⟨solid, no_object⟩
      have not_blank : isBlank record ≠ true := by
        rwa [Ne, isBlank_eq_true_iff]
      rw [decode, if_neg not_blank]
      cases read : Json.readObject record with
      | error fault => exact ⟨fault, rfl⟩
      | ok members => exact absurd ⟨members, Json.readObject_eq_ok_iff.1 read⟩ no_object

example : decode (Utf8.encode "\u00A0") = .ok none ∧
    decode [0xC2, 0xA0, 0x7B, 0x7D] = .error (.json .malformed [0xC2, 0xA0, 0x7B, 0x7D]) := by
  decide +kernel

end Record

end AccessStream

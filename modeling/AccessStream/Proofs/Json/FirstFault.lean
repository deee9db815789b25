import AccessStream.Proofs.Json.Cut
import AccessStream.Proofs.Json.Written
import AccessStream.Proofs.Record

/-!
# The first fault of a record

A record is read from left to right and its first fault is the one that counts, whatever follows:
text that is broken, bytes that are no UTF-8, or nothing at all. So a record is faulted for the type
of a value as soon as the value shows that it is not what is asked for, and for its syntax as soon
as a closing brace follows a comma (`Record.kind_of_first_fault`). Members that end with a comma are
passed over by the loop over the members (`scanNext_of_leadingForm`), so that the fault behind them
is found as if it were in the first member.
-/

namespace AccessStream.Json

/-! ## Beginnings that are faulted -/

/-- The ways to write any number of members, each of them followed by a comma. -/
inductive LeadingForm : Bytes → List (String × String) → Prop where
  | nil : LeadingForm [] []
  | cons {before form after forms : Bytes} {member : String × String}
      {members : List (String × String)} :
      Blanks before → MemberForm form member → Blanks after → LeadingForm forms members →
      LeadingForm (before ++ form ++ after ++ 0x2C :: forms) (member :: members)

/-- As much of a value as shows its type: the opening bracket or brace, or the whole of a word or a
string. -/
inductive TypeFront : Bytes → Prop where
  | array : TypeFront [0x5B]
  | object : TypeFront [0x7B]
  | null : TypeFront (0x6E :: nullTail)
  | yes : TypeFront (0x74 :: trueTail)
  | no : TypeFront (0x66 :: falseTail)
  | string {bytes : Bytes} {text : String} : StringForm bytes text → TypeFront bytes

/-- The beginnings of records whose first fault is the type of a value: of the record, which should
be an object, or of a member, which should be a string. -/
inductive MistypedFront : Bytes → Prop where
  | record {blanks value : Bytes} :
      Blanks blanks → TypeFront value → value.head? ≠ some 0x7B → MistypedFront (blanks ++ value)
  | member {blanks leading before key colon colon' value : Bytes}
      {members : List (String × String)} {name : String} :
      Blanks blanks → LeadingForm leading members → Blanks before → StringForm key name →
      Blanks colon → Blanks colon' → TypeFront value → value.head? ≠ some 0x22 →
      MistypedFront
        (blanks ++ 0x7B :: (leading ++ (before ++ key ++ colon ++ 0x3A :: (colon' ++ value))))

/-- The beginnings of records whose first fault is a closing brace behind a comma. -/
inductive TrailingCommaFront : Bytes → Prop where
  | intro {blanks leading after : Bytes} {member : String × String}
      {members : List (String × String)} :
      Blanks blanks → LeadingForm leading (member :: members) → Blanks after →
      TrailingCommaFront (blanks ++ 0x7B :: (leading ++ (after ++ [0x7D])))

/-! ## Values of another type -/

/-- A value shows its type from its first byte on, which is no white space. -/
theorem TypeFront.exists_cons {bytes : Bytes} (h : TypeFront bytes) :
    ∃ c ∈ ['[', '{', 'n', 't', 'f', '"'], ∃ more, bytes = UInt8.ofNat c.toNat :: more := by
  cases h with
  | array => exact ⟨'[', by decide, _, rfl⟩
  | object => exact ⟨'{', by decide, _, rfl⟩
  | null => exact ⟨'n', by decide, _, rfl⟩
  | yes => exact ⟨'t', by decide, _, rfl⟩
  | no => exact ⟨'f', by decide, _, rfl⟩
  | string written =>
    obtain ⟨content, -, rfl⟩ := written
    exact ⟨'"', by decide, _, rfl⟩

theorem TypeFront.skipBlanks {bytes : Bytes} (h : TypeFront bytes) {blanks : Bytes}
    (hb : Blanks blanks) (rest : Bytes) :
    skipBlanks (blanks ++ (bytes ++ rest)) = bytes ++ rest := by
  obtain ⟨c, listed, more, rfl⟩ := h.exists_cons
  rw [skipBlanks_append hb]
  refine skipBlanks_cons ?_ _
  simp only [List.mem_cons, List.not_mem_nil, or_false] at listed
  rcases listed with rfl | rfl | rfl | rfl | rfl | rfl <;> decide

/-- A value that is not what is asked for is faulted for its type once it has shown it. -/
theorem TypeFront.mismatchAt {bytes : Bytes} (h : TypeFront bytes) (rest : Bytes) :
    mismatchAt (bytes ++ rest) = .mismatch := by
  cases h with
  | array | object | null | yes | no => rfl
  | @string _ text written =>
    obtain ⟨content, text_form, rfl⟩ := written
    have read : Quoted.scan (content ++ 0x22 :: rest) = .ok (text, rest) :=
      Quoted.scan_eq_ok_iff.2 ⟨content, text_form, rfl⟩
    have regrouped : 0x22 :: content ++ [0x22] ++ rest = 0x22 :: (content ++ 0x22 :: rest) := by
      simp
    rw [regrouped, Json.mismatchAt]
    simp [read]

theorem TypeFront.scanString {bytes : Bytes} (h : TypeFront bytes) (other : bytes.head? ≠ some 0x22)
    (rest : Bytes) : scanString (bytes ++ rest) = .error .mismatch := by
  have typed := h.mismatchAt rest
  obtain ⟨c, -, more, rfl⟩ := h.exists_cons
  have first : UInt8.ofNat c.toNat ≠ 0x22 := fun same => other (congrArg some same)
  rw [List.cons_append] at typed ⊢
  rw [Json.scanString, if_neg first, typed]

theorem readObject_of_typeFront {blanks bytes : Bytes} (hb : Blanks blanks) (h : TypeFront bytes)
    (other : bytes.head? ≠ some 0x7B) (rest : Bytes) :
    readObject (blanks ++ (bytes ++ rest)) = .error .mismatch := by
  have typed := h.mismatchAt rest
  rw [readObject, Scanner.readWhole, h.skipBlanks hb]
  obtain ⟨c, -, more, rfl⟩ := h.exists_cons
  have first : UInt8.ofNat c.toNat ≠ 0x7B := fun same => other (congrArg some same)
  rw [List.cons_append] at typed ⊢
  simp only [Scanner.objectOf, if_neg first, typed]

/-! ## Members that end with a comma -/

/-- What the loop over the members does behind a comma: the next member starts with a quote. -/
def scanNext (found : Array (String × String)) (input : Bytes) :
    Except Fault (Array (String × String) × Bytes) :=
  (expect 0x22 (skipBlanks input)).bind (scanMembers (fun _ => .string) found)

theorem scanNext_of_skipBlanks {found : Array (String × String)} {input rest : Bytes}
    (h : skipBlanks input = 0x22 :: rest) :
    scanNext found input = scanMembers (fun _ => .string) found rest := by
  rw [scanNext, h]
  rfl

theorem scanSeparator_comma {after : Bytes} (ha : Blanks after) (rest : Bytes) :
    scanSeparator (after ++ 0x2C :: rest) =
      (expect 0x22 (skipBlanks rest)).map fun rest => (true, rest) := by
  rw [scanSeparator, (skipBlanks_eq_cons_iff (by decide)).2 ⟨after, ha, rfl⟩]
  rfl

/-- The loop passes over members that are each followed by a comma. -/
theorem scanNext_of_leadingForm {forms : Bytes} {members : List (String × String)}
    (h : LeadingForm forms members) (found : Array (String × String)) (rest : Bytes) :
    scanNext found (forms ++ rest) = scanNext (found ++ members) rest := by
  induction h generalizing found with
  | nil => simp
  | @cons before form after forms member members hb written ha _ ih =>
    obtain ⟨tail, rfl⟩ := written.exists_quote
    have start : skipBlanks (before ++ 0x22 :: tail ++ after ++ 0x2C :: forms ++ rest) =
        0x22 :: (tail ++ (after ++ 0x2C :: (forms ++ rest))) :=
      (skipBlanks_eq_cons_iff (by decide)).2 ⟨before, hb, by simp⟩
    have read : scanMember (fun _ => .string) (tail ++ (after ++ 0x2C :: (forms ++ rest))) =
        .ok (member, after ++ 0x2C :: (forms ++ rest)) :=
      scanMember_eq_ok_iff.2 ⟨_, written, by simp⟩
    have grown : found.push member ++ members = found ++ (member :: members) := by simp
    rw [scanNext_of_skipBlanks start, scanMembers_eq, read, Except.bind, scanSeparator_comma ha,
      ← grown, ← ih, scanNext]
    cases expect 0x22 (skipBlanks (forms ++ rest)) <;> rfl

/-- A fault that the loop over the members finds is the fault of the object. -/
theorem readObject_of_scanNext {blanks input rest : Bytes} (hb : Blanks blanks)
    (quote : skipBlanks input = 0x22 :: rest) {fault : Fault}
    (faulted : scanNext #[] input = .error fault) :
    readObject (blanks ++ 0x7B :: input) = .error fault := by
  have start : skipBlanks (blanks ++ 0x7B :: input) = 0x7B :: input :=
    (skipBlanks_eq_cons_iff (by decide)).2 ⟨blanks, hb, rfl⟩
  have object : scanObject (fun _ => .string) input = .error fault := by
    rw [scanNext_of_skipBlanks quote] at faulted
    rw [scanObject, quote]
    simp only [faulted, ↓reduceIte]
    rfl
  rw [readObject, Scanner.readWhole, start]
  simp only [Scanner.objectOf, ↓reduceIte, object]

/-- Members that end with a comma start with a quote, and so does what follows if there are none. -/
theorem LeadingForm.exists_quote {forms rest : Bytes} {members : List (String × String)}
    (h : LeadingForm forms members)
    (next : members = [] → ∃ more, skipBlanks rest = 0x22 :: more) :
    ∃ more, skipBlanks (forms ++ rest) = 0x22 :: more := by
  cases h with
  | nil => exact next rfl
  | @cons before form after forms member members hb written ha others =>
    obtain ⟨tail, rfl⟩ := written.exists_quote
    refine ⟨tail ++ (after ++ 0x2C :: (forms ++ rest)), ?_⟩
    exact (skipBlanks_eq_cons_iff (by decide)).2 ⟨before, hb, by simp⟩

/-! ## Objects -/

theorem readObject_of_mistypedFront {front : Bytes} (h : MistypedFront front) (rest : Bytes) :
    readObject (front ++ rest) = .error .mismatch := by
  cases h with
  | @record blanks value hb typed other =>
    rw [List.append_assoc]
    exact readObject_of_typeFront hb typed other rest
  | @member blanks leading before key colon colon' value members name hb led hbefore hkey hcolon
      hcolon' typed other =>
    obtain ⟨content, text_form, rfl⟩ := hkey
    -- what follows the members that end with a comma
    let last := before ++ (0x22 :: content ++ [0x22]) ++ colon ++ 0x3A :: (colon' ++ value) ++ rest
    let afterKey := colon ++ 0x3A :: (colon' ++ (value ++ rest))
    have quote : skipBlanks last = 0x22 :: (content ++ 0x22 :: afterKey) :=
      (skipBlanks_eq_cons_iff (by decide)).2 ⟨before, hbefore, by simp [last, afterKey]⟩
    have keyRead : Quoted.scan (content ++ 0x22 :: afterKey) = .ok (name, afterKey) :=
      Quoted.scan_eq_ok_iff.2 ⟨content, text_form, rfl⟩
    have colonRead : expect 0x3A (skipBlanks afterKey) = .ok (colon' ++ (value ++ rest)) :=
      (expect_skipBlanks_eq_ok_iff (by decide)).2 ⟨colon, hcolon, rfl⟩
    have faulted : scanMember (fun _ => .string) (content ++ 0x22 :: afterKey) =
        .error .mismatch := by
      have valueRead := typed.scanString other rest
      simp only [scanMember, keyRead, colonRead, Scanner.string, typed.skipBlanks hcolon', valueRead]
    obtain ⟨more, start⟩ := led.exists_quote fun _ => ⟨_, quote⟩
    have regrouped : blanks ++ 0x7B :: (leading ++ (before ++ (0x22 :: content ++ [0x22]) ++ colon ++
        0x3A :: (colon' ++ value))) ++ rest = blanks ++ 0x7B :: (leading ++ last) := by
      simp [last]
    rw [regrouped]
    refine readObject_of_scanNext hb start ?_
    rw [scanNext_of_leadingForm led, scanNext_of_skipBlanks quote, scanMembers_eq, faulted]
    rfl

theorem readObject_of_trailingCommaFront {front : Bytes} (h : TrailingCommaFront front)
    (rest : Bytes) : readObject (front ++ rest) = .error .malformed := by
  obtain @⟨blanks, leading, after, member, members, hb, led, ha⟩ := h
  have brace : skipBlanks (after ++ 0x7D :: rest) = 0x7D :: rest :=
    (skipBlanks_eq_cons_iff (by decide)).2 ⟨after, ha, rfl⟩
  obtain ⟨more, start⟩ :
      ∃ more, skipBlanks (leading ++ (after ++ 0x7D :: rest)) = 0x22 :: more :=
    led.exists_quote fun none => by cases none
  have regrouped : blanks ++ 0x7B :: (leading ++ (after ++ [0x7D])) ++ rest =
      blanks ++ 0x7B :: (leading ++ (after ++ 0x7D :: rest)) := by
    simp
  rw [regrouped]
  refine readObject_of_scanNext hb start ?_
  rw [scanNext_of_leadingForm led, scanNext, brace]
  rfl

end AccessStream.Json

namespace AccessStream

open Json (MistypedFront TrailingCommaFront)

namespace Record

/-- A record with a visible character of ASCII is not blank, so the fault of its text counts. -/
theorem decode_of_fault {record : Bytes} {fault : Json.Fault}
    (read : Json.readObject record = .error fault) {c : Char} (ascii : c.toNat < 0x80)
    (visible : c ∉ whiteSpace) (inside : UInt8.ofNat c.toNat ∈ record) :
    decode record = .error (.json fault record) := by
  have solid : isBlank record ≠ true := fun blank =>
    not_mem_of_whiteSpaceForm (isBlank_eq_true_iff.1 blank) ascii visible inside
  rw [decode, if_neg solid, read]

theorem decode_of_mistypedFront {front : Bytes} (h : MistypedFront front) (rest : Bytes) :
    decode (front ++ rest) = .error (.json .mismatch (front ++ rest)) := by
  have read := Json.readObject_of_mistypedFront h rest
  cases h with
  | record hb typed other =>
    obtain ⟨c, listed, more, rfl⟩ := typed.exists_cons
    have shown : c.toNat < 0x80 ∧ c ∉ whiteSpace := by
      simp only [List.mem_cons, List.not_mem_nil, or_false] at listed
      rcases listed with rfl | rfl | rfl | rfl | rfl | rfl <;> decide
    exact decode_of_fault read shown.1 shown.2 (by simp)
  | member => exact decode_of_fault read (c := '{') (by decide) (by decide) (by simp)

theorem decode_of_trailingCommaFront {front : Bytes} (h : TrailingCommaFront front) (rest : Bytes) :
    decode (front ++ rest) = .error (.json .malformed (front ++ rest)) := by
  have read := Json.readObject_of_trailingCommaFront h rest
  cases h
  exact decode_of_fault read (c := '{') (by decide) (by decide) (by simp)

/-- Whatever follows, a record is refused for the type of the first value that shows another one
than is asked for, if all before it is in order, and for its syntax if a comma behind a member is
followed by the closing brace. -/
theorem kind_of_first_fault (front rest : Bytes) :
    (MistypedFront front →
      (decode (front ++ rest)).mapError RecordError.kind = .error "type") ∧
    (TrailingCommaFront front →
      (decode (front ++ rest)).mapError RecordError.kind = .error "syntax") := by
  constructor
  · intro mistyped
    rw [decode_of_mistypedFront mistyped]
    rfl
  · intro trailing
    rw [decode_of_trailingCommaFront trailing]
    rfl

/-- A list as the second value of an object, and a comma behind its first member: what follows is no
text, and no part of it would go on. -/
theorem kind_of_first_fault_of_list :
    let list := Utf8.encode " \x7b\"a\":\"b\" ,\"c\": ["
    let comma := Utf8.encode "\x7b\"a\":\"b\",\x7d"
    MistypedFront list ∧ TrailingCommaFront comma ∧
      (decode (list ++ [0xFF, 0x7D])).mapError RecordError.kind = .error "type" ∧
      (decode (comma ++ [0xFF, 0x7D])).mapError RecordError.kind = .error "syntax" := by
  intro list comma
  have space : Json.Blanks [0x20] := by simp [Json.Blanks]
  have text : ∀ text : String, Json.StringForm (Utf8.ofChars (Json.Quoted.write text)) text :=
    Json.Quoted.stringForm_write
  have member := Json.MemberForm.intro (text "a") .nil .nil (text "b")
  have mistyped : MistypedFront list := by
    have front := MistypedFront.member space (.cons .nil member space .nil) .nil (text "c") .nil
      space .array (by decide)
    refine (congrArg MistypedFront ?_).mp front
    decide +kernel
  have trailing : TrailingCommaFront comma := by
    have front := TrailingCommaFront.intro .nil (.cons .nil member .nil .nil) .nil
    refine (congrArg TrailingCommaFront ?_).mp front
    decide +kernel
  exact ⟨mistyped, trailing, (kind_of_first_fault list _).1 mistyped,
    (kind_of_first_fault comma _).2 trailing⟩

end Record

end AccessStream

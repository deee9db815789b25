import AccessStream.Json.Reader
import AccessStream.Proofs.Json.Cut
import AccessStream.Proofs.Json.Number

/-!
# The grammar of JSON documents

A document is a word, a number, a string, or an array or object whose items or members are
documents, with blanks around each of them (`Value.DocumentForm`). Reading gives back the document
that is written, if no number of it is too large and it is not nested too deeply, and nothing
otherwise (`Value.toOption_read`). Both conditions are said by `Value.fits`, which follows the
scanners level by level.
-/

namespace AccessStream.Json

variable {α : Type}

/-! ## The grammar -/

/-- The ways to write one item or more, with a comma between one and the next. -/
inductive ItemsForm (form : Bytes → α → Prop) : Bytes → List α → Prop where
  | one {before bytes after : Bytes} {item : α} :
      Blanks before → form bytes item → Blanks after →
      ItemsForm form (before ++ bytes ++ after) [item]
  | more {before bytes after others : Bytes} {item : α} {items : List α} :
      Blanks before → form bytes item → Blanks after → ItemsForm form others items →
      ItemsForm form (before ++ bytes ++ after ++ 0x2C :: others) (item :: items)

/-- The ways to write one member or more, each a key, a colon and a value, with a comma between one
member and the next. -/
inductive FieldsForm (form : Bytes → α → Prop) : Bytes → List (String × α) → Prop where
  | one {before first colon colon' second after : Bytes} {key : String} {value : α} :
      Blanks before → StringForm first key → Blanks colon → Blanks colon' → form second value →
      Blanks after →
      FieldsForm form (before ++ first ++ colon ++ 0x3A :: (colon' ++ second ++ after))
        [(key, value)]
  | more {before first colon colon' second after others : Bytes} {key : String} {value : α}
      {members : List (String × α)} :
      Blanks before → StringForm first key → Blanks colon → Blanks colon' → form second value →
      Blanks after → FieldsForm form others members →
      FieldsForm form
        (before ++ first ++ colon ++ 0x3A :: (colon' ++ second ++ after ++ 0x2C :: others))
        ((key, value) :: members)

/-- The ways to write a value that is neither array nor object. -/
inductive ScalarForm : Bytes → Value → Prop where
  | null : ScalarForm (0x6E :: nullTail) .null
  | yes : ScalarForm (0x74 :: trueTail) (.bool true)
  | no : ScalarForm (0x66 :: falseTail) (.bool false)
  | number {bytes : Bytes} {number : Number} :
      NumberForm bytes number → ScalarForm bytes (.number number)
  | string {bytes : Bytes} {text : String} :
      StringForm bytes text → ScalarForm bytes (.string text)

/-- The ways to write a value, without blanks around it. -/
inductive Value.Form : Bytes → Value → Prop where
  | scalar {bytes : Bytes} {value : Value} : ScalarForm bytes value → Value.Form bytes value
  | emptyArray {blanks : Bytes} :
      Blanks blanks → Value.Form (0x5B :: (blanks ++ [0x5D])) (.array [])
  | array {content : Bytes} {items : List Value} :
      ItemsForm Value.Form content items → Value.Form (0x5B :: (content ++ [0x5D])) (.array items)
  | emptyObject {blanks : Bytes} :
      Blanks blanks → Value.Form (0x7B :: (blanks ++ [0x7D])) (.object [])
  | object {content : Bytes} {members : List (String × Value)} :
      FieldsForm Value.Form content members →
      Value.Form (0x7B :: (content ++ [0x7D])) (.object members)

/-- The ways to write a document: a value with blanks around it. -/
def Value.DocumentForm (bytes : Bytes) (value : Value) : Prop :=
  ∃ before form after, Blanks before ∧ Value.Form form value ∧ Blanks after ∧
    bytes = before ++ form ++ after

/-! ## What a scanner makes of a form -/

theorem endsValue_blanks {after : Bytes} (h : Blanks after) {byte : UInt8}
    (ends : byte = 0x2C ∨ byte = 0x5D ∨ byte = 0x7D) (rest : Bytes) :
    EndsValue (after ++ byte :: rest) := by
  intro first found
  cases after with
  | nil =>
    cases found
    exact .inr ends
  | cons _ after =>
    cases found
    exact .inl (isBlank_iff.2 (h first List.mem_cons_self))

/-- A scanner reads what is written in a form, up to something that ends a value, if it passes a
check, and refuses it otherwise. -/
def Scanner.Judges (scanner : Scanner α) (form : Bytes → α → Prop) (check : α → Bool) : Prop :=
  ∀ bytes value rest, form bytes value → EndsValue rest →
    (scanner.scan (bytes ++ rest)).toOption = if check value then some (value, rest) else none

theorem toOption_bind {ε β γ : Type} (found : Except ε β) (f : β → Except ε γ) :
    (found.bind f).toOption = found.toOption.bind fun value => (f value).toOption := by
  cases found <;> rfl

theorem toOption_map {ε β γ : Type} (f : β → γ) (found : Except ε β) :
    (found.map f).toOption = found.toOption.map f := by
  cases found <;> rfl

/-- A judged result is a value that passes, or a fault. -/
theorem ok_or_error_of_toOption {β : Type} {found : Except Fault β} {value : β} {passes : Bool}
    (h : found.toOption = if passes then some value else none) :
    (passes = true ∧ found = .ok value) ∨ (passes = false ∧ ∃ fault, found = .error fault) := by
  cases found with
  | error fault =>
    cases passes with
    | false => exact .inr ⟨rfl, fault, rfl⟩
    | true => cases h
  | ok other =>
    cases passes with
    | false => cases h
    | true =>
      rw [Option.some.inj h]
      exact .inl ⟨rfl, rfl⟩

variable {item : Scanner α} {form : Bytes → α → Prop} {check : α → Bool}

/-! ## Arrays -/

/-- What is written in a form starts with a byte that is neither a blank nor a closing bracket. -/
def Solid (form : Bytes → α → Prop) : Prop :=
  ∀ bytes value, form bytes value →
    ∃ byte more, bytes = byte :: more ∧ isBlank byte = false ∧ byte ≠ 0x5D

theorem scanItems_eq (item : Scanner α) (found : Array α) (input : Bytes) :
    scanItems item found input = (item.scan input).bind fun value =>
      (scanComma value.2).bind fun next =>
        if next.1 then scanItems item (found.push value.1) next.2
        else .ok (found.push value.1, next.2) := by
  rw [scanItems]
  split
  · rename_i read
    rw [read]
    rfl
  · rename_i value after read
    rw [read]
    simp only [Except.bind]
    split <;> simp_all

theorem skipBlanks_solid (solid : Solid form) {before bytes : Bytes} {value : α}
    (blanks : Blanks before) (h : form bytes value) (rest : Bytes) :
    ∃ byte more, skipBlanks (before ++ bytes ++ rest) = byte :: more ∧ byte ≠ 0x5D ∧
      byte :: more = bytes ++ rest := by
  obtain ⟨byte, more, rfl, visible, other⟩ := solid bytes value h
  refine ⟨byte, more ++ rest, ?_, other, rfl⟩
  exact (skipBlanks_eq_cons_iff visible).2 ⟨before, blanks, by simp⟩

theorem scanComma_close {after : Bytes} (h : Blanks after) (rest : Bytes) :
    scanComma (after ++ 0x5D :: rest) = .ok (false, rest) := by
  rw [scanComma, (skipBlanks_eq_cons_iff (by decide)).2 ⟨after, h, rfl⟩]
  rfl

theorem scanComma_comma {after : Bytes} (h : Blanks after) (rest : Bytes) :
    scanComma (after ++ 0x2C :: rest) = .ok (true, skipBlanks rest) := by
  rw [scanComma, (skipBlanks_eq_cons_iff (by decide)).2 ⟨after, h, rfl⟩]
  rfl

/-- The loop over the items reads them up to the closing bracket if all pass the check. -/
theorem toOption_scanItems (judges : item.Judges form check) (solid : Solid form) {bytes : Bytes}
    {items : List α} (h : ItemsForm form bytes items) (rest : Bytes) :
    ∃ byte more, skipBlanks (bytes ++ 0x5D :: rest) = byte :: more ∧ byte ≠ 0x5D ∧
      ∀ found : Array α, (scanItems item found (byte :: more)).toOption =
        if items.all check then some (found ++ items, rest) else none := by
  induction h with
  | @one before form after value blanks written blanks' =>
    obtain ⟨byte, more, skipped, other, split⟩ :=
      skipBlanks_solid solid blanks written (after ++ 0x5D :: rest)
    have read := judges _ _ _ written (endsValue_blanks blanks' (.inr (.inl rfl)) rest)
    refine ⟨byte, more, by rw [List.append_assoc, skipped], other, fun found => ?_⟩
    rw [scanItems_eq, toOption_bind, split, read]
    cases passes : check value with
    | false => simp [passes]
    | true => simp [passes, scanComma_close blanks' rest, Except.bind, Except.toOption]
  | @more before form after others value items blanks written blanks' _ ih =>
    obtain ⟨first, further, skipped', -, loop⟩ := ih
    obtain ⟨byte, more, skipped, other, split⟩ :=
      skipBlanks_solid solid blanks written (after ++ 0x2C :: (others ++ 0x5D :: rest))
    have read := judges _ _ _ written (endsValue_blanks blanks' (.inl rfl) (others ++ 0x5D :: rest))
    refine ⟨byte, more, ?_, other, fun found => ?_⟩
    · rw [← skipped]
      simp
    · rw [scanItems_eq, toOption_bind, split, read]
      cases passes : check value with
      | false => simp [passes]
      | true => simp [passes, scanComma_comma blanks', Except.bind, skipped', loop]

theorem scanArray_empty {blanks : Bytes} (h : Blanks blanks) (rest : Bytes) :
    scanArray item (blanks ++ 0x5D :: rest) = .ok ([], rest) := by
  rw [scanArray, (skipBlanks_eq_cons_iff (by decide)).2 ⟨blanks, h, rfl⟩]
  rfl

theorem toOption_scanArray (judges : item.Judges form check) (solid : Solid form) {bytes : Bytes}
    {items : List α} (h : ItemsForm form bytes items) (rest : Bytes) :
    (scanArray item (bytes ++ 0x5D :: rest)).toOption =
      if items.all check then some (items, rest) else none := by
  obtain ⟨byte, more, skipped, other, loop⟩ := toOption_scanItems judges solid h rest
  rw [scanArray, skipped]
  rcases ok_or_error_of_toOption (loop #[]) with ⟨all, read⟩ | ⟨all, fault, read⟩
  · simp [if_neg other, read, all, Except.toOption]
  · simp [if_neg other, read, all, Except.toOption]

/-! ## Objects -/

theorem toOption_scanMember (judges : item.Judges form check) (solid : Solid form)
    {content colon colon' second : Bytes} {key : String} {value : α}
    (key_form : TextForm content key.toList) (blanks : Blanks colon) (blanks' : Blanks colon')
    (written : form second value) {rest : Bytes} (ends : EndsValue rest) :
    (scanMember (fun _ => item)
      (content ++ 0x22 :: (colon ++ 0x3A :: (colon' ++ second ++ rest)))).toOption =
        if check value then some ((key, value), rest) else none := by
  obtain ⟨byte, more, skipped, -, split⟩ := skipBlanks_solid solid blanks' written rest
  have keyRead : Quoted.scan (content ++ 0x22 :: (colon ++ 0x3A :: (colon' ++ second ++ rest))) =
      .ok (key, colon ++ 0x3A :: (colon' ++ second ++ rest)) :=
    Quoted.scan_eq_ok_iff.2 ⟨content, key_form, rfl⟩
  have colonRead : expect 0x3A (skipBlanks (colon ++ 0x3A :: (colon' ++ second ++ rest))) =
      .ok (colon' ++ second ++ rest) :=
    (expect_skipBlanks_eq_ok_iff (by decide)).2 ⟨colon, blanks, rfl⟩
  simp only [scanMember, keyRead, colonRead, skipped, split]
  rcases ok_or_error_of_toOption (judges second value rest written ends) with
    ⟨passes, read⟩ | ⟨passes, fault, read⟩
  · simp [read, passes, Except.toOption]
  · simp [read, passes, Except.toOption]

/-- The loop over the members, started behind the first quote, reads them up to the closing brace if
all their values pass the check. -/
theorem toOption_scanMembers (judges : item.Judges form check) (solid : Solid form) {bytes : Bytes}
    {members : List (String × α)} (h : FieldsForm form bytes members) (rest : Bytes) :
    ∃ input, skipBlanks (bytes ++ 0x7D :: rest) = 0x22 :: input ∧
      ∀ found : Array (String × α), (scanMembers (fun _ => item) found input).toOption =
        if members.all (check ·.2) then some (found ++ members, rest) else none := by
  induction h with
  | @one before first colon colon' second after key value blanks key_form colons colons' written
      blanks' =>
    obtain ⟨content, text, rfl⟩ := key_form
    have read := toOption_scanMember judges solid text colons colons' written
      (endsValue_blanks blanks' (.inr (.inr rfl)) rest)
    have separated : scanSeparator (after ++ 0x7D :: rest) = .ok (false, rest) :=
      scanSeparator_eq_ok_iff.2 ⟨after ++ [0x7D], .close blanks', by simp⟩
    refine ⟨content ++ 0x22 :: (colon ++ 0x3A :: (colon' ++ second ++ (after ++ 0x7D :: rest))),
      ?_, fun found => ?_⟩
    · exact (skipBlanks_eq_cons_iff (by decide)).2 ⟨before, blanks, by simp⟩
    · rw [scanMembers_eq, toOption_bind, read]
      cases passes : check value with
      | false => simp [passes]
      | true => simp [passes, separated, Except.bind, Except.toOption]
  | @more before first colon colon' second after others key value members blanks key_form colons
      colons' written blanks' _ ih =>
    obtain ⟨content, text, rfl⟩ := key_form
    obtain ⟨input, skipped, loop⟩ := ih
    -- what is read between two members ends with the opening quote of the second
    obtain ⟨gap, gap_blanks, others_eq⟩ := (skipBlanks_eq_cons_iff (by decide)).1 skipped
    have read := toOption_scanMember judges solid text colons colons' written
      (endsValue_blanks blanks' (.inl rfl) (others ++ 0x7D :: rest))
    have separated : scanSeparator (after ++ 0x2C :: (others ++ 0x7D :: rest)) =
        .ok (true, input) :=
      scanSeparator_eq_ok_iff.2 ⟨_, .comma blanks' gap_blanks, by simp [others_eq]⟩
    refine ⟨content ++ 0x22 ::
      (colon ++ 0x3A :: (colon' ++ second ++ (after ++ 0x2C :: (others ++ 0x7D :: rest)))),
      ?_, fun found => ?_⟩
    · exact (skipBlanks_eq_cons_iff (by decide)).2 ⟨before, blanks, by simp⟩
    · rw [scanMembers_eq, toOption_bind, read]
      cases passes : check value with
      | false => simp [passes]
      | true =>
        simp only [if_true, Option.bind_some, separated, Except.bind, loop, List.all_cons, passes,
          Bool.true_and]
        simp

theorem scanObject_empty {blanks : Bytes} (h : Blanks blanks) (value : String → Scanner α)
    (rest : Bytes) : scanObject value (blanks ++ 0x7D :: rest) = .ok ([], rest) := by
  rw [scanObject, (skipBlanks_eq_cons_iff (by decide)).2 ⟨blanks, h, rfl⟩]
  rfl

theorem toOption_scanObject (judges : item.Judges form check) (solid : Solid form) {bytes : Bytes}
    {members : List (String × α)} (h : FieldsForm form bytes members) (rest : Bytes) :
    (scanObject (fun _ => item) (bytes ++ 0x7D :: rest)).toOption =
      if members.all (check ·.2) then some (members, rest) else none := by
  obtain ⟨input, skipped, loop⟩ := toOption_scanMembers judges solid h rest
  rw [scanObject, skipped]
  simp only [show (0x22 : UInt8) ≠ 0x7D by decide, if_false, if_true]
  rcases ok_or_error_of_toOption (loop #[]) with ⟨all, read⟩ | ⟨all, fault, read⟩
  · simp only [read, all, if_true, Except.toOption]
    simp
  · simp only [read, all, Bool.false_eq_true, if_false, Except.toOption]

/-! ## Values -/

namespace Value

/-- Whether a value can be read where at most the given number of arrays and objects are nested: no
number in it is too large, and it is not nested more deeply. -/
def fits : Nat → Value → Bool
  | _, .null => true
  | _, .bool _ => true
  | _, .string _ => true
  | _, .number found => found.fits
  | 0, .array _ => false
  | 0, .object _ => false
  | depth + 1, .array items => items.all (fits depth)
  | depth + 1, .object members => members.all fun member => fits depth member.2

theorem scanWord_append (tail : Bytes) (value : Value) (rest : Bytes) :
    scanWord tail value (tail ++ rest) = .ok (value, rest) := by
  have found : expectAll tail (tail ++ rest) = .ok rest := by
    induction tail with
    | nil => rfl
    | cons byte tail ih =>
      rw [List.cons_append, expectAll, expect, if_pos rfl]
      exact ih
  rw [scanWord, found]

/-- What is read where a scalar is written. The first byte tells it from an array or object. -/
theorem toOption_scanScalar {bytes : Bytes} {value : Value} (h : ScalarForm bytes value) :
    ∃ byte more, bytes = byte :: more ∧ byte ≠ 0x5B ∧ byte ≠ 0x7B ∧ byte ≠ 0x5D ∧
      isBlank byte = false ∧ ∀ depth rest, EndsValue rest →
        (scanScalar byte (more ++ rest)).toOption =
          if value.fits depth then some (value, rest) else none := by
  cases h with
  | null =>
    refine ⟨_, _, rfl, by decide, by decide, by decide, by decide, fun depth rest _ => ?_⟩
    simp [scanScalar, Number.isDigit, scanWord_append, fits, Except.toOption]
  | yes =>
    refine ⟨_, _, rfl, by decide, by decide, by decide, by decide, fun depth rest _ => ?_⟩
    simp [scanScalar, Number.isDigit, scanWord_append, fits, Except.toOption]
  | no =>
    refine ⟨_, _, rfl, by decide, by decide, by decide, by decide, fun depth rest _ => ?_⟩
    simp [scanScalar, Number.isDigit, scanWord_append, fits, Except.toOption]
  | @string bytes text written =>
    obtain ⟨content, written, rfl⟩ := written
    refine ⟨0x22, content ++ [0x22], rfl, by decide, by decide, by decide, by decide,
      fun depth rest _ => ?_⟩
    have read : Quoted.scan (content ++ [0x22] ++ rest) = .ok (text, rest) :=
      Quoted.scan_eq_ok_iff.2 ⟨content, written, List.append_assoc content [0x22] rest⟩
    rw [scanScalar, if_pos rfl, toOption_map, read]
    simp [fits, Except.toOption]
  | @number bytes number written =>
    obtain ⟨byte, more, rfl, first⟩ := written.exists_first
    have number_byte : (byte = 0x2D || Number.isDigit byte) = true := by
      simpa using first
    have other : ∀ sign, (sign = 0x2D || Number.isDigit sign) = false → byte ≠ sign := by
      rintro _ outside rfl
      cases number_byte.symm.trans outside
    refine ⟨byte, more, rfl, other _ (by decide), other _ (by decide), other _ (by decide), ?_,
      fun depth rest ends => ?_⟩
    · cases blank : isBlank byte with
      | false => rfl
      | true =>
        rcases isBlank_iff.1 blank with rfl | rfl | rfl | rfl <;> cases number_byte
    · rw [scanScalar, if_neg (other 0x22 (by decide)), if_pos number_byte, toOption_map,
        ← List.cons_append, Number.scan_append written ends]
      cases passes : number.fits <;> simp [fits, passes, Except.toOption]

theorem solid_form : Solid Form := by
  intro bytes value h
  cases h with
  | scalar h =>
    obtain ⟨byte, more, rfl, -, -, other, visible, -⟩ := toOption_scanScalar h
    exact ⟨byte, more, rfl, visible, other⟩
  | emptyArray | array | emptyObject | object => exact ⟨_, _, rfl, by decide, by decide⟩

/-- One level of reading: a value fits if what is nested in it fits the level below. -/
theorem judges_nesting {inner : Scanner Value} {depth : Nat}
    (judges : inner.Judges Form (fits depth)) :
    (nesting inner).Judges Form (fits (depth + 1)) := by
  intro bytes value rest h ends
  cases h with
  | scalar h =>
    obtain ⟨byte, more, rfl, bracket, brace, -, -, read⟩ := toOption_scanScalar h
    rw [List.cons_append, nesting]
    simp only [if_neg bracket, if_neg brace]
    exact read (depth + 1) rest ends
  | emptyArray blanks =>
    rw [List.cons_append, List.append_assoc, nesting]
    simp only [if_true, List.singleton_append, scanArray_empty blanks]
    rfl
  | @array content items written =>
    rw [List.cons_append, List.append_assoc, nesting,
      show (array items).fits (depth + 1) = items.all (fits depth) from rfl]
    simp only [if_true, List.singleton_append, toOption_map,
      toOption_scanArray judges solid_form written]
    cases items.all (fits depth) <;> rfl
  | emptyObject blanks =>
    rw [List.cons_append, List.append_assoc, nesting]
    simp only [show (0x7B : UInt8) ≠ 0x5B by decide, if_false, if_true, List.singleton_append,
      scanObject_empty blanks]
    rfl
  | @object content members written =>
    rw [List.cons_append, List.append_assoc, nesting,
      show (object members).fits (depth + 1) = members.all fun member => fits depth member.2
        from rfl]
    simp only [show (0x7B : UInt8) ≠ 0x5B by decide, if_false, if_true, List.singleton_append,
      toOption_map, toOption_scanObject judges solid_form written]
    cases members.all fun member => fits depth member.2 <;> rfl

/-- Where nothing may be nested, arrays and objects are refused. -/
theorem judges_scalar : scalar.Judges Form (fits 0) := by
  intro bytes value rest h ends
  cases h with
  | scalar h =>
    obtain ⟨byte, more, rfl, -, -, -, -, read⟩ := toOption_scanScalar h
    exact read 0 rest ends
  | emptyArray | array | emptyObject | object => rfl

theorem judges_scanner (depth : Nat) : (scanner depth).Judges Form (fits depth) := by
  induction depth with
  | zero => exact judges_scalar
  | succ depth ih => exact judges_nesting ih

/-- The text of a document is read as this document if it fits, and refused otherwise. -/
theorem toOption_read {text : String} {value : Value}
    (written : DocumentForm (Utf8.encode text) value) :
    (read text).toOption = if value.fits maxDepth then some value else none := by
  obtain ⟨before, form, after, blanks, written, blanks', text_eq⟩ := written
  have ends : EndsValue after := by
    cases after with
    | nil =>
      intro byte first
      cases first
    | cons blank after =>
      rintro _ ⟨rfl⟩
      exact .inl (isBlank_iff.2 (blanks' blank List.mem_cons_self))
  obtain ⟨byte, more, skipped, -, split⟩ := skipBlanks_solid solid_form blanks written after
  rw [read, Scanner.readWhole, text_eq, skipped, split]
  rcases ok_or_error_of_toOption (judges_scanner maxDepth form value after written ends) with
    ⟨passes, found⟩ | ⟨passes, fault, found⟩
  · simp [found, passes, skipBlanks_eq_nil_iff.2 blanks', Except.toOption]
  · simp [found, passes, Except.toOption]

theorem read_eq_ok_iff {text : String} {value found : Value}
    (written : DocumentForm (Utf8.encode text) value) :
    read text = .ok found ↔ value.fits maxDepth = true ∧ found = value := by
  have as_option : read text = .ok found ↔ (read text).toOption = some found := by
    cases read text <;> simp [Except.toOption]
  rw [as_option, toOption_read written]
  cases value.fits maxDepth with
  | false => simp
  | true =>
    simp only [if_true, Option.some.injEq, true_and]
    exact eq_comm

end Value

end AccessStream.Json

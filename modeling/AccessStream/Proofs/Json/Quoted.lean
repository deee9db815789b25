import AccessStream.Json.Scanner
import AccessStream.Proofs.Text.Utf8
import Mathlib.Tactic.SplitIfs

/-!
# The grammar of JSON strings

How a text may be written inside a JSON string: each character stands for itself in UTF-8, or is
written by an escape (`CharForm`). Reading accepts exactly these forms and gives the text that they
stand for (`Quoted.scan_eq_ok_iff`), although it undoes the escapes byte by byte and looks at the
UTF-8 form of the outcome only at the end: an escape always gives whole characters, so what it
leaves in pieces can only be put together by the bytes next to it.
-/

namespace AccessStream.Json

/-! ## The grammar -/

/-- A byte that is a hexadecimal digit, with its value. -/
def HexDigit (byte : UInt8) (value : Nat) : Prop :=
  0x30 ≤ byte ∧ byte ≤ 0x39 ∧ value = byte.toNat - 0x30 ∨
    0x41 ≤ byte ∧ byte ≤ 0x46 ∧ value = byte.toNat - 0x41 + 10 ∨
    0x61 ≤ byte ∧ byte ≤ 0x66 ∧ value = byte.toNat - 0x61 + 10

/-- Four hexadecimal digits and the number that they write. -/
inductive HexUnit : Bytes → Nat → Prop where
  | intro {a b c d : UInt8} {x y z w : Nat} : HexDigit a x → HexDigit b y → HexDigit c z →
      HexDigit d w → HexUnit [a, b, c, d] (((x * 16 + y) * 16 + z) * 16 + w)

/-- The escapes of one byte, each with the character that it stands for. -/
def escapeLetters : List (UInt8 × Char) :=
  [(0x22, '"'), (0x5C, '\\'), (0x2F, '/'), (0x62, '\x08'), (0x66, '\x0C'), (0x6E, '\n'),
    (0x72, '\r'), (0x74, '\t')]

/-- What may follow a backslash, with the character that the escape stands for. Halves of surrogate
pairs are the numbers of no characters, and only together do they stand for one. -/
inductive EscapeForm : Bytes → Char → Prop where
  /-- An escape of one byte. -/
  | letter {byte : UInt8} {c : Char} (h : (byte, c) ∈ escapeLetters) : EscapeForm [byte] c
  /-- The number of a character. -/
  | unit {digits : Bytes} {c : Char} (h : HexUnit digits c.toNat) : EscapeForm (0x75 :: digits) c
  /-- A surrogate pair. -/
  | pair {first second : Bytes} {leading trailing : Nat} {c : Char}
      (h₁ : HexUnit first leading) (leads : 0xD800 ≤ leading ∧ leading ≤ 0xDBFF)
      (h₂ : HexUnit second trailing) (trails : 0xDC00 ≤ trailing ∧ trailing ≤ 0xDFFF)
      (number : c.toNat = 0x10000 + (leading - 0xD800) * 0x400 + (trailing - 0xDC00)) :
      EscapeForm (0x75 :: (first ++ 0x5C :: 0x75 :: second)) c

/-- The ways to write one character inside a string. -/
inductive CharForm : Bytes → Char → Prop where
  /-- The character itself, unless it is a quote, a backslash or a control character below the
  space. -/
  | plain {c : Char} (quote : c ≠ '"') (backslash : c ≠ '\\') (printable : ' ' ≤ c) :
      CharForm (String.utf8EncodeChar c) c
  /-- An escape. -/
  | escaped {form : Bytes} {c : Char} (h : EscapeForm form c) : CharForm (0x5C :: form) c

/-- The ways to write a text inside a string. -/
inductive TextForm : Bytes → List Char → Prop where
  | nil : TextForm [] []
  | cons {form forms : Bytes} {c : Char} {cs : List Char} :
      CharForm form c → TextForm forms cs → TextForm (form ++ forms) (c :: cs)

/-- The ways to write a text as a JSON string. -/
def StringForm (bytes : Bytes) (text : String) : Prop :=
  ∃ content, TextForm content text.toList ∧ bytes = 0x22 :: content ++ [0x22]

/-! ## Escapes -/

theorem expect_eq_ok_iff {byte : UInt8} {input rest : Bytes} :
    expect byte input = .ok rest ↔ input = byte :: rest := by
  cases input with
  | nil => simp [expect]
  | cons b after =>
    rw [expect]
    split_ifs with h
    · simp [h]
    · simp [h]

namespace Quoted

theorem hexDigit?_eq_some_iff {byte : UInt8} {value : Nat} :
    hexDigit? byte = some value ↔ HexDigit byte value := by
  simp only [hexDigit?, HexDigit, Bool.and_eq_true, decide_eq_true_eq, UInt8.le_iff_toNat_le,
    UInt8.reduceToNat]
  split_ifs <;> simp only [Option.some.injEq, false_iff] <;> omega

theorem scanUnit_eq_ok_iff {input rest : Bytes} {number : Nat} :
    scanUnit input = .ok (number, rest) ↔
      ∃ digits, HexUnit digits number ∧ input = digits ++ rest := by
  constructor
  · intro h
    match input with
    | a :: b :: c :: d :: after =>
      simp only [scanUnit] at h
      split at h
      · rename_i x y z w hx hy hz hw
        cases h
        exact ⟨[a, b, c, d], .intro (hexDigit?_eq_some_iff.1 hx) (hexDigit?_eq_some_iff.1 hy)
          (hexDigit?_eq_some_iff.1 hz) (hexDigit?_eq_some_iff.1 hw), rfl⟩
      · cases h
    | [] | [_] | [_, _] | [_, _, _] => cases h
  · rintro ⟨digits, ⟨hx, hy, hz, hw⟩, rfl⟩
    simp [scanUnit, hexDigit?_eq_some_iff.2 hx, hexDigit?_eq_some_iff.2 hy,
      hexDigit?_eq_some_iff.2 hz, hexDigit?_eq_some_iff.2 hw]

theorem hexUnit_lt {digits : Bytes} {number : Nat} (h : HexUnit digits number) :
    number < 0x10000 := by
  have below : ∀ {byte : UInt8} {value : Nat}, HexDigit byte value → value < 16 := by
    intro byte value hv
    simp only [HexDigit, UInt8.le_iff_toNat_le, UInt8.reduceToNat] at hv
    omega
  obtain ⟨hx, hy, hz, hw⟩ := h
  have := below hx
  have := below hy
  have := below hz
  have := below hw
  omega

theorem shortEscape?_eq_some_iff {byte : UInt8} {c : Char} :
    shortEscape? byte = some c ↔ (byte, c) ∈ escapeLetters := by
  unfold shortEscape? escapeLetters
  constructor
  · intro h
    split_ifs at h <;> cases h <;> simp_all
  · intro h
    simp only [List.mem_cons, Prod.mk.injEq, List.not_mem_nil, or_false] at h
    rcases h with ⟨rfl, rfl⟩ | ⟨rfl, rfl⟩ | ⟨rfl, rfl⟩ | ⟨rfl, rfl⟩ | ⟨rfl, rfl⟩ | ⟨rfl, rfl⟩ |
      ⟨rfl, rfl⟩ | ⟨rfl, rfl⟩ <;> rfl

theorem toNat_ofNat_of_isValidChar {number : Nat} (valid : number.isValidChar) :
    (Char.ofNat number).toNat = number := by
  rw [Char.ofNat, dif_pos valid]
  rfl

/-- The number of an escape is that of a character, unless it is half of a surrogate pair. -/
theorem toNat_ofNat_of_unit {number : Nat} (small : number < 0x10000)
    (leads : isLeading number = false) (trails : isTrailing number = false) :
    (Char.ofNat number).toNat = number := by
  simp only [isLeading, isTrailing, Bool.and_eq_false_iff, decide_eq_false_iff_not] at leads trails
  have valid : number.isValidChar := by
    rw [Nat.isValidChar]
    omega
  exact toNat_ofNat_of_isValidChar valid

theorem toNat_ofPair {leading trailing : Nat} (leads : isLeading leading = true)
    (trails : isTrailing trailing = true) :
    (ofPair leading trailing).toNat =
      0x10000 + (leading - 0xD800) * 0x400 + (trailing - 0xDC00) := by
  simp only [isLeading, isTrailing, Bool.and_eq_true, decide_eq_true_eq] at leads trails
  have valid : (0x10000 + (leading - 0xD800) * 0x400 + (trailing - 0xDC00)).isValidChar := by
    rw [Nat.isValidChar]
    omega
  exact toNat_ofNat_of_isValidChar valid

/-- The number of a character is no half of a surrogate pair. -/
theorem isLeading_isTrailing_toNat (c : Char) :
    isLeading c.toNat = false ∧ isTrailing c.toNat = false := by
  have valid : c.toNat.isValidChar := c.valid
  rw [Nat.isValidChar] at valid
  simp only [isLeading, isTrailing, Bool.and_eq_false_iff, decide_eq_false_iff_not]
  omega

theorem scanTrailing_eq_ok_iff {leading : Nat} {input rest : Bytes} {c : Char} :
    scanTrailing leading input = .ok (c, rest) ↔
      ∃ digits trailing, HexUnit digits trailing ∧ isTrailing trailing = true ∧
        c = ofPair leading trailing ∧ input = 0x5C :: 0x75 :: (digits ++ rest) := by
  constructor
  · intro h
    unfold scanTrailing at h
    split at h
    · cases h
    rename_i afterBackslash backslash
    split at h
    · cases h
    rename_i afterLetter letter
    split at h
    · cases h
    rename_i trailing after number
    split at h
    · rename_i trails
      simp only [Except.ok.injEq, Prod.mk.injEq] at h
      obtain ⟨digits, unit, digits_eq⟩ := scanUnit_eq_ok_iff.1 number
      rw [expect_eq_ok_iff] at backslash letter
      refine ⟨digits, trailing, unit, trails, h.1.symm, ?_⟩
      rw [backslash, letter, digits_eq, h.2]
    · cases h
  · rintro ⟨digits, trailing, unit, trails, pair, written⟩
    have number : scanUnit (digits ++ rest) = .ok (trailing, rest) :=
      scanUnit_eq_ok_iff.2 ⟨digits, unit, rfl⟩
    simp [scanTrailing, expect, written, number, trails, pair]

theorem scanUnicode_eq_ok_iff {input rest : Bytes} {c : Char} :
    scanUnicode input = .ok (c, rest) ↔
      ∃ form, EscapeForm (0x75 :: form) c ∧ input = form ++ rest := by
  constructor
  · intro h
    unfold scanUnicode at h
    split at h
    · cases h
    rename_i number after found
    obtain ⟨digits, unit, rfl⟩ := scanUnit_eq_ok_iff.1 found
    split_ifs at h with trails leads
    · obtain ⟨second, trailing, unit', trails', pair, rfl⟩ := scanTrailing_eq_ok_iff.1 h
      refine ⟨digits ++ 0x5C :: 0x75 :: second, ?_, by simp⟩
      have number_eq := toNat_ofPair leads trails'
      rw [← pair] at number_eq
      simp only [isLeading, isTrailing, Bool.and_eq_true, decide_eq_true_eq] at leads trails'
      exact .pair unit leads unit' trails' number_eq
    · simp only [Except.ok.injEq, Prod.mk.injEq] at h
      obtain ⟨rfl, rfl⟩ := h
      refine ⟨digits, .unit ?_, rfl⟩
      rwa [toNat_ofNat_of_unit (hexUnit_lt unit) (by simpa using leads) (by simpa using trails)]
  · rintro ⟨form, escape, rfl⟩
    cases escape with
    | letter h => simp [escapeLetters] at h
    | unit h =>
      have found : scanUnit (form ++ rest) = .ok (c.toNat, rest) :=
        scanUnit_eq_ok_iff.2 ⟨form, h, rfl⟩
      obtain ⟨leads, trails⟩ := isLeading_isTrailing_toNat c
      simp [scanUnicode, found, leads, trails]
    | pair h₁ leads h₂ trails number =>
      rename_i first second leading trailing
      have found : scanUnit (first ++ 0x5C :: 0x75 :: second ++ rest) =
          .ok (leading, 0x5C :: 0x75 :: (second ++ rest)) :=
        scanUnit_eq_ok_iff.2 ⟨first, h₁, by simp⟩
      have isLead : isLeading leading = true := by simpa [isLeading] using leads
      have isTrail : isTrailing trailing = true := by simpa [isTrailing] using trails
      have noTrail : isTrailing leading = false := by
        simp only [isTrailing, Bool.and_eq_false_iff, decide_eq_false_iff_not]
        omega
      have char_eq : c = ofPair leading trailing :=
        Char.toNat_inj.1 (number.trans (toNat_ofPair isLead isTrail).symm)
      have half : scanTrailing leading (0x5C :: 0x75 :: (second ++ rest)) = .ok (c, rest) :=
        scanTrailing_eq_ok_iff.2 ⟨second, trailing, h₂, isTrail, char_eq, rfl⟩
      simp only [scanUnicode, found, noTrail, isLead, Bool.false_eq_true, ↓reduceIte, half]

theorem scanEscape_eq_ok_iff {input rest : Bytes} {c : Char} :
    scanEscape input = .ok (c, rest) ↔ ∃ form, EscapeForm form c ∧ input = form ++ rest := by
  constructor
  · intro h
    cases input with
    | nil => cases h
    | cons byte after =>
      rw [scanEscape] at h
      split at h
      · rename_i isUnit
        obtain ⟨form, escape, rfl⟩ := scanUnicode_eq_ok_iff.1 h
        exact ⟨0x75 :: form, escape, by rw [isUnit]; rfl⟩
      · split at h
        · rename_i letter
          cases h
          exact ⟨[byte], .letter (shortEscape?_eq_some_iff.1 letter), rfl⟩
        · cases h
  · rintro ⟨form, escape, rfl⟩
    cases form with
    | nil => cases escape
    | cons byte form =>
      by_cases isUnit : byte = 0x75
      · subst isUnit
        rw [List.cons_append, scanEscape, if_pos rfl]
        exact scanUnicode_eq_ok_iff.2 ⟨form, escape, rfl⟩
      · cases escape with
        | letter h =>
          simp [scanEscape, isUnit, shortEscape?_eq_some_iff.2 h]
        | unit h => exact absurd rfl isUnit
        | pair => exact absurd rfl isUnit

/-! ## The content of a string -/

/-- A byte that stands for itself, or is part of a character that does. -/
def IsPlain (byte : UInt8) : Prop := byte ≠ 0x22 ∧ byte ≠ 0x5C ∧ ¬ byte < 0x20

theorem isPlain_of_mem_encodeChar {c : Char} (quote : c ≠ '"') (backslash : c ≠ '\\')
    (printable : ' ' ≤ c) {byte : UInt8} (hb : byte ∈ String.utf8EncodeChar c) : IsPlain byte := by
  by_cases small : c.toNat < 0x80
  · rw [Utf8.encodeChar_of_lt small, List.mem_singleton] at hb
    have value : byte.toNat = c.toNat := by
      rw [hb, UInt8.toNat_ofNat']
      omega
    refine ⟨?_, ?_, ?_⟩
    · rintro rfl
      exact quote (Char.toNat_inj.1 value.symm)
    · rintro rfl
      exact backslash (Char.toNat_inj.1 value.symm)
    · rw [UInt8.lt_iff_toNat_lt, value]
      exact Nat.not_lt.2 printable
  · have high := Utf8.le_of_mem_encodeChar (Nat.le_of_not_lt small) hb
    rw [UInt8.le_iff_toNat_le] at high
    refine ⟨?_, ?_, ?_⟩
    · rintro rfl
      exact absurd high (by decide)
    · rintro rfl
      exact absurd high (by decide)
    · rw [UInt8.lt_iff_toNat_lt]
      exact Nat.not_lt.2 (Nat.le_trans (by decide) high)

/-- A character whose first byte stands for itself may stand for itself. -/
theorem charForm_of_isPlain {c : Char} {byte : UInt8} {others : Bytes}
    (form : String.utf8EncodeChar c = byte :: others) (plain : IsPlain byte) :
    CharForm (byte :: others) c := by
  have value : c.toNat < 0x80 → byte.toNat = c.toNat := by
    intro small
    rw [Utf8.encodeChar_of_lt small] at form
    obtain ⟨rfl, -⟩ : UInt8.ofNat c.toNat = byte ∧ _ := by simpa using form
    rw [UInt8.toNat_ofNat']
    omega
  rw [← form]
  refine .plain ?_ ?_ ?_
  · rintro rfl
    exact plain.1 (UInt8.toNat_inj.1 (value (by decide)))
  · rintro rfl
    exact plain.2.1 (UInt8.toNat_inj.1 (value (by decide)))
  · refine Nat.le_of_not_lt fun control => plain.2.2 ?_
    have small : c.toNat < 0x20 := control
    rw [UInt8.lt_iff_toNat_lt, value (by omega)]
    exact small

theorem scanContent_plain {bytes : Bytes} (plain : ∀ byte ∈ bytes, IsPlain byte)
    (found : Array UInt8) (rest : Bytes) :
    scanContent found (bytes ++ rest) = scanContent (found ++ bytes) rest := by
  induction bytes generalizing found with
  | nil => simp
  | cons byte bytes ih =>
    obtain ⟨quote, backslash, printable⟩ := plain byte List.mem_cons_self
    rw [List.cons_append, scanContent]
    simp only [quote, backslash, printable, ↓reduceIte]
    rw [ih fun b hb => plain b (List.mem_cons_of_mem byte hb)]
    simp

theorem scanContent_escape {input rest : Bytes} {c : Char}
    (h : scanEscape input = .ok (c, rest)) (found : Array UInt8) :
    scanContent found (0x5C :: input) =
      scanContent (found ++ String.utf8EncodeChar c) rest := by
  rw [scanContent, if_neg (by decide), if_pos rfl]
  split
  · rename_i failed
    rw [h] at failed
    cases failed
  · rename_i undone
    rw [h] at undone
    cases undone
    rfl

/-- Reading undoes every way to write a text. -/
theorem scanContent_of_textForm {content : Bytes} {cs : List Char} (h : TextForm content cs)
    (found : Array UInt8) (rest : Bytes) :
    scanContent found (content ++ 0x22 :: rest) =
      .ok (found ++ cs.flatMap String.utf8EncodeChar, rest) := by
  induction h generalizing found with
  | nil => simp [scanContent]
  | @cons form forms c cs charForm _ ih =>
    have regroup : found ++ String.utf8EncodeChar c ++ cs.flatMap String.utf8EncodeChar =
        found ++ (c :: cs).flatMap String.utf8EncodeChar := Array.ext' (by simp)
    rw [List.append_assoc]
    cases charForm with
    | plain quote backslash printable =>
      rw [scanContent_plain fun _ hb => isPlain_of_mem_encodeChar quote backslash printable hb, ih,
        regroup]
    | @escaped form _ escape =>
      have undone : scanEscape (form ++ (forms ++ 0x22 :: rest)) =
          .ok (c, forms ++ 0x22 :: rest) := scanEscape_eq_ok_iff.2 ⟨form, escape, rfl⟩
      rw [List.cons_append, scanContent_escape undone, ih, regroup]

/-- The bytes of a text begin with a continuation byte only where a character has been cut. -/
theorem tail_eq_nil_of_append {tail bytes : Bytes} {c : Char} {cs : List Char}
    (continued : ∀ byte ∈ tail, Utf8.isContinuation byte = true)
    (h : String.utf8EncodeChar c ++ bytes = tail ++ cs.flatMap String.utf8EncodeChar) :
    tail = [] := by
  cases tail with
  | nil => rfl
  | cons byte tail =>
    cases form : String.utf8EncodeChar c with
    | nil => exact absurd form (Utf8.encodeChar_ne_nil c)
    | cons first others =>
      rw [form, List.cons_append, List.cons_append, List.cons.injEq] at h
      have first_not := (Utf8.isContinuation_encodeChar form).1
      rw [h.1, continued byte List.mem_cons_self] at first_not
      cases first_not

/-- What reading accepts is a way to write the text that it gives. The induction goes byte by byte,
so that it may stop inside a character that stands for itself: `tail` is what is missing of it. -/
theorem textForm_of_scanContent {found content : Array UInt8} {input rest : Bytes}
    (h : scanContent found input = .ok (content, rest)) :
    ∃ new, content.toList = found.toList ++ new ∧
      ∀ tail cs, (∀ byte ∈ tail, Utf8.isContinuation byte = true) →
        new = tail ++ cs.flatMap String.utf8EncodeChar →
        ∃ forms, TextForm forms cs ∧ input = tail ++ (forms ++ 0x22 :: rest) := by
  fun_induction scanContent found input with
  | case1 => cases h
  | case2 found after =>
    cases h
    refine ⟨[], by simp, fun tail cs _ empty => ?_⟩
    obtain ⟨rfl, none⟩ := List.append_eq_nil_iff.1 empty.symm
    cases cs with
    | nil => exact ⟨[], .nil, rfl⟩
    | cons c cs => exact absurd (List.append_eq_nil_iff.1 none).1 (Utf8.encodeChar_ne_nil c)
  | case3 => cases h
  | case4 found after c afterEscape escape _ ih =>
    obtain ⟨new, grown, forms_of⟩ := ih h
    refine ⟨String.utf8EncodeChar c ++ new, by simp [grown], fun tail cs continued split => ?_⟩
    obtain rfl := tail_eq_nil_of_append continued split
    cases cs with
    | nil => exact absurd (List.append_eq_nil_iff.1 split).1 (Utf8.encodeChar_ne_nil c)
    | cons d cs =>
      obtain ⟨rfl, new_eq⟩ := Utf8.encodeChar_append_inj split
      obtain ⟨forms, written, rfl⟩ := forms_of [] cs (by simp) new_eq
      obtain ⟨form, escapeForm, rfl⟩ := scanEscape_eq_ok_iff.1 escape
      exact ⟨0x5C :: form ++ forms, .cons (.escaped escapeForm) written, by simp⟩
  | case5 => cases h
  | case6 found byte after quote backslash printable ih =>
    obtain ⟨new, grown, forms_of⟩ := ih h
    refine ⟨byte :: new, by simp [grown], fun tail cs continued split => ?_⟩
    cases tail with
    | cons b tail =>
      -- The byte belongs to the character that has been cut.
      obtain ⟨rfl, new_eq⟩ := List.cons.inj split
      obtain ⟨forms, written, rfl⟩ :=
        forms_of tail cs (fun b hb => continued b (List.mem_cons_of_mem _ hb)) new_eq
      exact ⟨forms, written, rfl⟩
    | nil =>
      -- The byte begins the next character.
      cases cs with
      | nil => cases split
      | cons d cs =>
        cases form : String.utf8EncodeChar d with
        | nil => exact absurd form (Utf8.encodeChar_ne_nil d)
        | cons first others =>
          rw [List.nil_append, List.flatMap_cons, form, List.cons_append, List.cons.injEq] at split
          obtain ⟨rfl, new_eq⟩ := split
          obtain ⟨forms, written, rfl⟩ :=
            forms_of others cs (Utf8.isContinuation_encodeChar form).2 new_eq
          exact ⟨byte :: others ++ forms,
            .cons (charForm_of_isPlain form ⟨quote, backslash, printable⟩) written, by simp⟩

/-- After an opening quote, reading accepts exactly the ways to write a text up to a closing
quote. -/
theorem scan_eq_ok_iff {input rest : Bytes} {text : String} :
    scan input = .ok (text, rest) ↔
      ∃ content, TextForm content text.toList ∧ input = content ++ 0x22 :: rest := by
  constructor
  · intro h
    unfold scan at h
    split at h
    · cases h
    rename_i content after found
    split at h
    · rename_i decoded read
      cases h
      obtain ⟨new, grown, forms_of⟩ := textForm_of_scanContent found
      rw [Utf8.decode?_eq_some_iff, Utf8.encode_eq_flatMap, grown] at read
      exact forms_of [] text.toList (by simp) read
    · cases h
  · rintro ⟨content, written, rfl⟩
    have found := scanContent_of_textForm written #[] rest
    have read : Utf8.decode? (text.toList.flatMap String.utf8EncodeChar) = some text := by
      rw [Utf8.decode?_eq_some_iff, Utf8.encode_eq_flatMap]
    simp [scan, found, read]

end Quoted

/-- Reading a string accepts exactly the ways to write a text as one. -/
theorem scanString_eq_ok_iff {input rest : Bytes} {text : String} :
    scanString input = .ok (text, rest) ↔
      ∃ bytes, StringForm bytes text ∧ input = bytes ++ rest := by
  constructor
  · intro h
    cases input with
    | nil => cases h
    | cons byte after =>
      rw [scanString] at h
      split at h
      · rename_i quote
        obtain ⟨content, written, rfl⟩ := Quoted.scan_eq_ok_iff.1 h
        refine ⟨0x22 :: content ++ [0x22], ⟨content, written, rfl⟩, ?_⟩
        simp [quote]
      · cases h
  · rintro ⟨bytes, ⟨content, written, rfl⟩, rfl⟩
    have read : Quoted.scan (content ++ 0x22 :: rest) = .ok (text, rest) :=
      Quoted.scan_eq_ok_iff.2 ⟨content, written, rfl⟩
    simp [scanString, read]

end AccessStream.Json

import AccessStream.Toml.Value

/-!
# TOML words

Numbers, booleans and dates are words: they stand without quotes and hold no blanks, but for the one
between a date and a time. Between two digits of a number an underscore may stand. A decimal number
has no zero in front of other digits.
-/

namespace AccessStream.Toml.Word

/-- A character of a word. -/
def isWordChar (c : Char) : Bool :=
  c.isAlphanum || c = '_' || c = '+' || c = '-' || c = '.' || c = ':'

/-- Digits without the underscores between them. -/
def digits? (isDigit : Char → Bool) : List Char → Option (List Char)
  | [] => none
  | [c] => if isDigit c then some [c] else none
  | c :: '_' :: rest => if isDigit c then (digits? isDigit rest).map (c :: ·) else none
  | c :: rest => if isDigit c then (digits? isDigit rest).map (c :: ·) else none

/-- The value of a digit; letters of either case count from ten. -/
def digitValue (c : Char) : Nat :=
  if c.isDigit then c.toNat - '0'.toNat else c.toLower.toNat - 'a'.toNat + 10

/-- The number that digits of a base write. -/
def ofDigits (base : Nat) (digits : List Char) : Nat :=
  digits.foldl (fun n c => n * base + digitValue c) 0

/-- Whether a character is a digit of a base of at most sixteen. -/
def isDigitOf (base : Nat) (c : Char) : Bool :=
  (c.isDigit || ('a' ≤ c && c ≤ 'f') || ('A' ≤ c && c ≤ 'F')) && digitValue c < base

/-- The number that a word without a sign writes in a base. -/
def natural? (base : Nat) (word : List Char) : Option Nat :=
  (digits? (isDigitOf base) word).map (ofDigits base)

/-- Decimal digits that do not start with a zero, unless they are a zero. -/
def decimal? (word : List Char) : Option (List Char) :=
  match digits? Char.isDigit word with
  | some ('0' :: _ :: _) => none
  | found => found

/-- The whole number that a word writes. -/
def integer? (word : List Char) : Option Int :=
  match word with
  | '0' :: 'x' :: rest => (natural? 16 rest).map (↑·)
  | '0' :: 'o' :: rest => (natural? 8 rest).map (↑·)
  | '0' :: 'b' :: rest => (natural? 2 rest).map (↑·)
  | _ =>
    let (negative, rest) := Decimal.splitSign word
    (decimal? rest).map fun digits => Decimal.signed negative (Decimal.ofDigits digits)

/-- A word up to a character with a property, and what follows the character if there is one. -/
def splitAt (p : Char → Bool) (word : List Char) : List Char × Option (List Char) :=
  match word.dropWhile (!p ·) with
  | [] => (word, none)
  | _ :: rest => (word.takeWhile (!p ·), some rest)

/-- The exponent of a number, which is zero if there is none. -/
def exponent? : Option (List Char) → Option Int
  | none => some 0
  | some word =>
    let (negative, rest) := Decimal.splitSign word
    (digits? Char.isDigit rest).map fun digits => Decimal.signed negative (Decimal.ofDigits digits)

/-- The digits of a fraction, of which there are none if there is no fraction. -/
def fraction? : Option (List Char) → Option (List Char)
  | none => some []
  | some word => digits? Char.isDigit word

/-- The number with a fraction or an exponent that a word writes. -/
def float? (word : List Char) : Option Binary64 := do
  let (negative, rest) := Decimal.splitSign word
  if rest = ['i', 'n', 'f'] then return .infinite negative
  else if rest = ['n', 'a', 'n'] then return .nan
  else
    let (mantissa, exponent) := splitAt (fun c => c = 'e' || c = 'E') rest
    let (whole, fraction) := splitAt (· = '.') mantissa
    if exponent.isNone && fraction.isNone then none
    else
      let whole ← decimal? whole
      let fraction ← fraction? fraction
      let exponent ← exponent? exponent
      return .ofDecimal negative (Decimal.ofDigits (whole ++ fraction)) (exponent - fraction.length)

/-- Whether a word names an infinity. -/
def isInfinite (word : List Char) : Bool := (Decimal.splitSign word).2 == ['i', 'n', 'f']

/-- Whether a whole number has at most 128 bits. -/
def isReadable (value : Int) : Bool := -Nat.pow 2 127 ≤ value && value < Nat.pow 2 128

/-- The value that a word stands for. -/
def value? (word : List Char) : Option Value :=
  if word = ['t', 'r', 'u', 'e'] then some (.boolean true)
  else if word = ['f', 'a', 'l', 's', 'e'] then some (.boolean false)
  else match integer? word with
    | some value => some (if isReadable value then .integer value else .unreadable)
    | none =>
      match float? word with
      | some value =>
        if value.isFinite || value = .nan || isInfinite word then some (.float value)
        else some .unreadable
      | none => (Datetime.read? word).map .datetime

/-- The word at the front of a text, and what follows it. A date goes on after a blank if a digit
follows. -/
def split (text : List Char) : List Char × List Char :=
  let word := text.takeWhile isWordChar
  let rest := text.dropWhile isWordChar
  match Datetime.date? word, rest with
  | some (_, []), ' ' :: c :: more =>
    if c.isDigit then
      (word ++ ' ' :: (c :: more).takeWhile isWordChar, (c :: more).dropWhile isWordChar)
    else (word, rest)
  | _, _ => (word, rest)

theorem split_append (text : List Char) : (split text).1 ++ (split text).2 = text := by
  have whole := List.takeWhile_append_dropWhile (p := isWordChar) (l := text)
  unfold split
  simp only
  split
  · rename_i c more _ rest
    split
    · rw [rest] at whole
      have next := List.takeWhile_append_dropWhile (p := isWordChar) (l := c :: more)
      rw [List.append_assoc, List.cons_append, next]
      exact whole
    · exact whole
  · exact whole

/-- The value that the word at the front of a text stands for, and what follows the word. -/
def scan? (text : List Char) : Option (Value × List Char) :=
  (value? (split text).1).map (·, (split text).2)

theorem value?_nil : value? [] = none := by decide +kernel

theorem length_of_scan? {text rest : List Char} {value : Value}
    (h : scan? text = some (value, rest)) : rest.length < text.length := by
  have whole := congrArg List.length (split_append text)
  simp only [scan?, Option.map_eq_some_iff, Prod.mk.injEq] at h
  obtain ⟨found, word, _, rfl⟩ := h
  have nonempty : (split text).1 ≠ [] := by
    intro empty
    rw [empty, value?_nil] at word
    cases word
  have := List.length_pos_iff.2 nonempty
  rw [List.length_append] at whole
  omega

end AccessStream.Toml.Word

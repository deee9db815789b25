import AccessStream.Proofs.Text.Utf8
import Mathlib.Data.List.Lex

/-!
# The order of texts and of their bytes

Texts are in the order of their UTF-8 forms, compared byte by byte (`lex_encode`). The first byte of
a character tells the greater character, unless both have the same number of continuation bytes and
the same leading digit; the continuation bytes are then the other digits of the two numbers, most
significant first (`lex_continuation`).
-/

namespace AccessStream.Utf8

open String (utf8EncodeChar)

/-- A number without its last digits to the base 64. -/
def leading : Nat → Nat → Nat
  | 0, n => n
  | count + 1, n => leading count (n / 64)

/-- The last digits of a number to the base 64, as continuation bytes. -/
def continuation : Nat → Nat → Bytes
  | 0, _ => []
  | count + 1, n => continuation count (n / 64) ++ [UInt8.ofNat (n % 64 + 0x80)]

/-- How many continuation bytes a character has, and what its first byte adds to the digit in it. -/
inductive Layout : Nat → Nat → Nat → Prop where
  | one {n : Nat} : n < 0x80 → Layout n 0 0
  | two {n : Nat} : 0x80 ≤ n → n < 0x800 → Layout n 1 0xC0
  | three {n : Nat} : 0x800 ≤ n → n < 0x10000 → Layout n 2 0xE0
  | four {n : Nat} : 0x10000 ≤ n → n < 0x110000 → Layout n 3 0xF0

theorem toNat_lt_of_char (c : Char) : c.toNat < 0x110000 := by
  have valid := c.valid
  simp only [UInt32.isValidChar, Nat.isValidChar] at valid
  show c.val.toNat < _
  omega

theorem exists_layout (c : Char) :
    ∃ count mark, Layout c.toNat count mark ∧
      utf8EncodeChar c =
        UInt8.ofNat (leading count c.toNat + mark) :: continuation count c.toNat := by
  have top := toNat_lt_of_char c
  have number : c.val.toNat = c.toNat := rfl
  rw [utf8EncodeChar, number]
  generalize c.toNat = n at top ⊢
  split_ifs with first second third
  · exact ⟨0, 0, .one (by omega), by simp [leading, continuation]⟩
  · have digit : n / 64 % 32 = n / 64 := by omega
    exact ⟨1, 0xC0, .two (by omega) (by omega), by simp [leading, continuation, digit]⟩
  · have digit : n / 4096 % 16 = n / 4096 := by omega
    exact ⟨2, 0xE0, .three (by omega) (by omega), by
      simp [leading, continuation, digit, Nat.div_div_eq_div_mul]⟩
  · have digit : n / 262144 % 8 = n / 262144 := by omega
    exact ⟨3, 0xF0, .four (by omega) top, by
      simp [leading, continuation, digit, Nat.div_div_eq_div_mul]⟩

/-- Continuation bytes are in the order of the numbers whose last digits they are. -/
theorem lex_continuation {count m n : Nat} (less : m < n)
    (same : leading count m = leading count n) (rest rest' : Bytes) :
    List.Lex (· < ·) (continuation count m ++ rest) (continuation count n ++ rest') := by
  induction count generalizing m n rest rest' with
  | zero => exact absurd same (Nat.ne_of_lt less)
  | succ count ih =>
    rw [continuation, continuation, List.append_assoc, List.append_assoc, List.singleton_append,
      List.singleton_append]
    by_cases higher : m / 64 < n / 64
    · exact ih higher same _ _
    · have digits : m / 64 = n / 64 ∧ m % 64 < n % 64 := by omega
      rw [digits.1]
      refine List.Lex.append_left _ (.rel ?_) _
      rw [UInt8.lt_iff_toNat_lt, UInt8.toNat_ofNat', UInt8.toNat_ofNat']
      omega

/-- What the first bytes of two characters tell of their order. -/
theorem Layout.lt_or_eq {m n count count' mark mark' : Nat} (first : Layout m count mark)
    (second : Layout n count' mark') (less : m < n) :
    leading count' n + mark' < 0x100 ∧
      (leading count m + mark < leading count' n + mark' ∨
        count = count' ∧ mark = mark' ∧ leading count m = leading count n) := by
  cases first <;> cases second <;> simp only [leading, true_and] <;> omega

theorem lex_encodeChar_append {c d : Char} (less : c < d) (rest rest' : Bytes) :
    List.Lex (· < ·) (utf8EncodeChar c ++ rest) (utf8EncodeChar d ++ rest') := by
  obtain ⟨count, mark, layout, form⟩ := exists_layout c
  obtain ⟨count', mark', layout', form'⟩ := exists_layout d
  have number : c.toNat < d.toNat := less
  rw [form, form', List.cons_append, List.cons_append]
  obtain ⟨small, lower | ⟨rfl, rfl, same⟩⟩ := layout.lt_or_eq layout' number
  · refine .rel ?_
    rwa [UInt8.lt_iff_toNat_lt, UInt8.toNat_ofNat', UInt8.toNat_ofNat', Nat.mod_eq_of_lt small,
      Nat.mod_eq_of_lt (lower.trans small)]
  · rw [same]
    exact .cons (lex_continuation number same rest rest')

/-- The UTF-8 forms of texts are in the order of the texts, byte by byte. -/
theorem lex_encode {first second : String} (less : first < second) :
    List.Lex (· < ·) (encode first) (encode second) := by
  have chars : List.Lex (· < ·) first.toList second.toList := less
  rw [encode_eq_flatMap, encode_eq_flatMap]
  generalize first.toList = cs at chars ⊢
  generalize second.toList = ds at chars ⊢
  induction chars with
  | @nil d ds =>
    rw [List.flatMap_nil, List.flatMap_cons]
    obtain ⟨byte, bytes, form⟩ := List.exists_cons_of_ne_nil (encodeChar_ne_nil d)
    rw [form]
    exact .nil
  | cons _ ih =>
    rw [List.flatMap_cons, List.flatMap_cons]
    exact List.Lex.append_left _ ih _
  | rel less =>
    rw [List.flatMap_cons, List.flatMap_cons]
    exact lex_encodeChar_append less _ _

end AccessStream.Utf8

/-!
# Characters by their numbers

An escape may write a character as a fixed count of hexadecimal digits. Half of a surrogate pair is
no character, nor is a number past the last one.
-/

namespace AccessStream.Text

/-- The value of a hexadecimal digit. -/
def hexDigit? (c : Char) : Option Nat :=
  if '0' ≤ c && c ≤ '9' then some (c.toNat - '0'.toNat)
  else if 'A' ≤ c && c ≤ 'F' then some (c.toNat - 'A'.toNat + 10)
  else if 'a' ≤ c && c ≤ 'f' then some (c.toNat - 'a'.toNat + 10)
  else none

/-- The number that a fixed count of hexadecimal digits writes after the digits so far. -/
def hex? (value : Nat) : Nat → List Char → Option (Nat × List Char)
  | 0, text => some (value, text)
  | _ + 1, [] => none
  | count + 1, c :: rest =>
    match hexDigit? c with
    | some digit => hex? (value * 16 + digit) count rest
    | none => none

/-- The character with a number, which must not be half of a surrogate pair. -/
def char? (value : Nat) : Option Char :=
  if value.isValidChar then some (Char.ofNat value) else none

/-- The character that a fixed count of hexadecimal digits stands for. -/
def hexChar? (count : Nat) (text : List Char) : Option (Char × List Char) :=
  match hex? 0 count text with
  | some (value, rest) => (char? value).map (·, rest)
  | none => none

theorem length_of_hex? {value count : Nat} {text : List Char} {found : Nat} {rest : List Char}
    (h : hex? value count text = some (found, rest)) : rest.length ≤ text.length := by
  fun_induction hex? value count text with
  | case1 => cases h; exact Nat.le_refl _
  | case2 => cases h
  | case3 _ _ _ _ _ _ ih => exact Nat.le_succ_of_le (ih h)
  | case4 => cases h

theorem length_of_hexChar? {count : Nat} {text : List Char} {c : Char} {rest : List Char}
    (h : hexChar? count text = some (c, rest)) : rest.length ≤ text.length := by
  unfold hexChar? at h
  split at h
  · rename_i value after found
    cases valid : char? value with
    | none => simp [valid] at h
    | some =>
      simp only [valid, Option.map_some, Option.some.injEq, Prod.mk.injEq] at h
      rw [← h.2]
      exact length_of_hex? found
  · cases h

end AccessStream.Text

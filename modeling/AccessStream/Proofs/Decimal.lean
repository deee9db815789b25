import AccessStream.Decimal.Digits
import AccessStream.Text.Blank

/-!
# Digits read back

The digits written for a number are those of no other number, and no zero stands in front of
others.
-/

namespace AccessStream.Decimal

theorem ofDigits_toDigits (n : Nat) : ofDigits (Nat.toDigits 10 n) = n := by
  have same : ofDigits (Nat.toDigits 10 n) = Nat.ofDigitChars 10 (Nat.toDigits 10 n) 0 := by
    rw [Nat.ofDigitChars_eq_foldl, ofDigits]
    congr 1
    funext sofar c
    rw [Nat.mul_comm]
  rw [same, Nat.ofDigitChars_ten_toDigits]

/-- The first digit of a number is a zero only if it is the only one. -/
theorem toDigits_eq_cons (n : Nat) :
    ∃ first more, Nat.toDigits 10 n = first :: more ∧ (first = '0' → more = []) := by
  induction n using Nat.strongRecOn with
  | ind n ih =>
    rcases Nat.lt_or_ge n 10 with small | large
    · exact ⟨_, [], Nat.toDigits_of_lt_base small, fun _ => rfl⟩
    · obtain ⟨first, more, digits, single⟩ := ih (n / 10) (by omega)
      refine ⟨first, more ++ [(n % 10).digitChar], ?_, fun zero => ?_⟩
      · rw [Nat.toDigits_of_base_le (by decide) large, digits, List.cons_append]
      · -- the digits before the last one write a number, which is zero if its only digit is
        have value := ofDigits_toDigits (n / 10)
        rw [digits, zero, single zero] at value
        have : n / 10 = 0 := value.symm
        omega

theorem signed_natAbs (value : Int) : signed (value < 0) value.natAbs = value := by
  by_cases negative : value < 0
  · simp only [signed, negative, decide_true, if_true]
    omega
  · simp only [signed, negative, decide_false, Bool.false_eq_true, if_false]
    omega

theorem mem_write {value : Int} {c : Char} (h : c ∈ write value) : c = '-' ∨ c.isDigit = true := by
  rw [write, List.mem_append] at h
  rcases h with sign | digit
  · split at sign
    · exact Or.inl (List.mem_singleton.1 sign)
    · cases sign
  · exact Or.inr (Nat.isDigit_of_mem_toDigits (by decide) (by decide) digit)

theorem not_isSpace_of_isDigit {c : Char} (h : c.isDigit = true) : Text.isSpace c = false := by
  have digits : ∀ n < 58, 48 ≤ n → Text.isSpace (Char.ofNat n) = false := by decide
  simp only [Char.isDigit, Bool.and_eq_true, decide_eq_true_eq] at h
  rw [← Char.ofNat_toNat c]
  exact digits c.toNat (Nat.lt_succ_of_le h.2) h.1

theorem not_isSpace_of_mem_write {value : Int} {c : Char} (h : c ∈ write value) :
    Text.isSpace c = false := by
  rcases mem_write h with rfl | digit
  · decide
  · exact not_isSpace_of_isDigit digit

theorem write_ne_nil (value : Int) : write value ≠ [] := by
  simp [write, Nat.toDigits_ne_nil]

theorem splitSign_write (value : Int) :
    splitSign (write value) = (decide (value < 0), Nat.toDigits 10 value.natAbs) := by
  by_cases negative : value < 0
  · simp [write, negative, splitSign]
  · obtain ⟨first, more, digits, -⟩ := toDigits_eq_cons value.natAbs
    have digit : first.isDigit = true :=
      Nat.isDigit_of_mem_toDigits (b := 10) (by decide) (by decide) (digits ▸ List.mem_cons_self)
    simp only [write, negative, if_false, List.nil_append, decide_false]
    rw [digits, splitSign.eq_def]
    split
    · rename_i same
      cases (List.cons.inj same).1
      exact absurd digit (by decide)
    · rename_i same
      cases (List.cons.inj same).1
      exact absurd digit (by decide)
    · rfl

theorem exists_isDigit_of_integer? {text : List Char} {value : Int}
    (h : integer? text = some value) : ∃ c ∈ text, c.isDigit = true := by
  have among : (splitSign text).2 ⊆ text := by
    unfold splitSign
    split <;> simp
  obtain ⟨size, written, -⟩ := Option.map_eq_some_iff.1 h
  rw [natural?] at written
  obtain ⟨each, -⟩ := Option.ite_none_right_eq_some.1 written
  simp only [Bool.and_eq_true, decide_eq_true_eq, List.all_eq_true] at each
  obtain ⟨c, more, cons⟩ := List.exists_cons_of_ne_nil each.1
  have first : c ∈ (splitSign text).2 := cons ▸ List.mem_cons_self
  exact ⟨c, among first, each.2 c first⟩

theorem toLower_of_isDigit {c : Char} (h : c.isDigit = true) : c.toLower = c := by
  have digits : ∀ n < 58, 48 ≤ n → (Char.ofNat n).toLower = Char.ofNat n := by decide
  simp only [Char.isDigit, Bool.and_eq_true, decide_eq_true_eq] at h
  rw [← Char.ofNat_toNat c]
  exact digits c.toNat (Nat.lt_succ_of_le h.2) h.1

theorem toLower_ne_of_integer? {text word : String} {value : Int}
    (h : integer? text.toList = some value)
    (letters : (word.toList.all fun c => !c.isDigit) = true) : text.toLower ≠ word := by
  rintro rfl
  obtain ⟨c, among, digit⟩ := exists_isDigit_of_integer? h
  have kept : c ∈ text.toLower.toList := by
    have lower : text.toLower = text.map Char.toLower := rfl
    rw [lower, String.toList_map]
    exact List.mem_map.2 ⟨c, among, toLower_of_isDigit digit⟩
  have letter := List.all_eq_true.1 letters c kept
  rw [digit] at letter
  cases letter

end AccessStream.Decimal

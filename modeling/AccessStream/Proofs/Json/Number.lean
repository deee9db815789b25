import AccessStream.Json.Value
import AccessStream.Proofs.Decimal
import AccessStream.Proofs.Text.Front
import AccessStream.Proofs.Text.Utf8

/-!
# The grammar of JSON numbers

A number is written as a minus sign or nothing, the digits before the decimal point, of which the
first is a zero only if it is the only one, and then a fraction and an exponent or nothing in their
place (`NumberForm`). Reading accepts what is written so, up to something that can end a number,
unless the value is too large (`Number.scan_append`). A number counts as a natural number exactly if
it is written as digits alone and fits 64 bits (`Number.natural?_eq_some_iff`).
-/

namespace AccessStream.Json

open Number

/-! ## The grammar -/

/-- Decimal digits, at least one. -/
def DigitsForm (bytes : Bytes) : Prop := bytes ≠ [] ∧ ∀ byte ∈ bytes, isDigit byte = true

/-- The digits of a whole number, of which the first is a zero only if it is the only one. -/
def IntegerForm (digits : Bytes) : Prop :=
  DigitsForm digits ∧ ∀ more, digits = 0x30 :: more → more = []

/-- A decimal point with the digits after it, or nothing. -/
inductive FractionForm : Bytes → Bytes → Prop where
  | none : FractionForm [] []
  | some {digits : Bytes} : DigitsForm digits → FractionForm (0x2E :: digits) digits

/-- A sign, or nothing, with whether the sign is a minus. -/
inductive SignForm : Bytes → Bool → Prop where
  | none : SignForm [] false
  | plus : SignForm [0x2B] false
  | minus : SignForm [0x2D] true

/-- An exponent, with its value, or nothing. -/
inductive ExponentForm : Bytes → Option Int → Prop where
  | none : ExponentForm [] none
  | some {mark : UInt8} {sign digits : Bytes} {negative : Bool} (h : mark = 0x65 ∨ mark = 0x45) :
      SignForm sign negative → DigitsForm digits →
      ExponentForm (mark :: (sign ++ digits)) (some (signed negative (ofDigits digits)))

/-- The ways to write a number, with what is kept of it. -/
inductive NumberForm : Bytes → Number → Prop where
  | positive {digits fraction exponent fractionDigits : Bytes} {power : Option Int} :
      IntegerForm digits → FractionForm fraction fractionDigits → ExponentForm exponent power →
      NumberForm (digits ++ fraction ++ exponent) (ofParts false digits fractionDigits power)
  | negative {digits fraction exponent fractionDigits : Bytes} {power : Option Int} :
      IntegerForm digits → FractionForm fraction fractionDigits → ExponentForm exponent power →
      NumberForm (0x2D :: (digits ++ fraction ++ exponent))
        (ofParts true digits fractionDigits power)

/-- A number starts with a minus sign or a digit. -/
theorem NumberForm.exists_first {literal : Bytes} {number : Number}
    (h : NumberForm literal number) :
    ∃ byte more, literal = byte :: more ∧ (byte = 0x2D ∨ isDigit byte = true) := by
  cases h with
  | positive integer =>
    obtain ⟨first, more, rfl⟩ := List.exists_cons_of_ne_nil integer.1.1
    exact ⟨first, _, rfl, .inr (integer.1.2 first List.mem_cons_self)⟩
  | negative => exact ⟨0x2D, _, rfl, .inl rfl⟩

/-- What follows a value in a text: nothing, a blank, a comma or a closing bracket or brace. -/
def EndsValue (rest : Bytes) : Prop :=
  ∀ byte ∈ rest.head?, isBlank byte = true ∨ byte = 0x2C ∨ byte = 0x5D ∨ byte = 0x7D

namespace Number

/-! ## Reading -/

/-- The bytes that can go on with a number. -/
def continues (byte : UInt8) : Bool :=
  isDigit byte || byte = 0x2E || byte = 0x65 || byte = 0x45

theorem stops_of_endsValue {rest : Bytes} (h : EndsValue rest) : Stops continues rest := by
  intro byte first
  rcases h byte first with blank | rfl | rfl | rfl
  · simp only [isBlank, Bool.or_eq_true, decide_eq_true_eq] at blank
    rcases blank with ((rfl | rfl) | rfl) | rfl <;> decide
  · decide
  · decide
  · decide

theorem scanDigits_append {digits rest : Bytes} (h : DigitsForm digits)
    (stops : Stops isDigit rest) : scanDigits (digits ++ rest) = .ok (digits, rest) := by
  obtain ⟨some, all⟩ := h
  have taken := takeWhile_front all stops
  have left := dropWhile_front all stops
  cases digits with
  | nil => exact absurd rfl some
  | cons first more =>
    have digit : isDigit first = true := all first List.mem_cons_self
    rw [List.cons_append] at taken left ⊢
    rw [scanDigits, if_pos digit, taken, left]

theorem scanInteger_append {digits rest : Bytes} (h : IntegerForm digits)
    (stops : Stops isDigit rest) : scanInteger (digits ++ rest) = .ok (digits, rest) := by
  obtain ⟨form, single⟩ := h
  have read := scanDigits_append form stops
  cases digits with
  | nil => exact absurd rfl form.1
  | cons first more =>
    by_cases zero : first = 0x30
    · obtain rfl : more = [] := single more (by rw [zero])
      have stop : rest.head?.any isDigit = false := by
        cases rest with
        | nil => rfl
        | cons byte rest => exact stops byte rfl
      simp [scanInteger, zero, stop]
    · rw [List.cons_append] at read ⊢
      rw [scanInteger, if_neg zero, read]

theorem scanFraction_append {bytes digits rest : Bytes} (h : FractionForm bytes digits)
    (stops : Stops (fun byte => isDigit byte || byte = 0x2E) rest) :
    scanFraction (bytes ++ rest) = .ok (digits, rest) := by
  cases h with
  | none =>
    cases rest with
    | nil => rfl
    | cons byte rest =>
      have stop := stops byte rfl
      simp only [Bool.or_eq_false_iff, decide_eq_false_iff_not] at stop
      simp [scanFraction, stop.2]
  | some form =>
    have stop : Stops isDigit rest := stops.mono fun byte digit => by simp [digit]
    rw [List.cons_append, scanFraction, if_pos rfl, scanDigits_append form stop]

/-- The signs of exponents. -/
def isSign (byte : UInt8) : Bool := byte = 0x2B || byte = 0x2D

theorem scanSign_append {sign rest : Bytes} {negative : Bool} (h : SignForm sign negative)
    (stops : Stops isSign rest) : scanSign (sign ++ rest) = (negative, rest) := by
  cases h with
  | none =>
    cases rest with
    | nil => rfl
    | cons byte rest =>
      have stop := stops byte rfl
      simp only [isSign, Bool.or_eq_false_iff, decide_eq_false_iff_not] at stop
      simp [scanSign, stop.1, stop.2]
  | plus => rfl
  | minus => rfl

theorem isSign_of_isDigit {byte : UInt8} (h : isDigit byte = true) : isSign byte = false := by
  cases sign : isSign byte with
  | false => rfl
  | true =>
    simp only [isSign, Bool.or_eq_true, decide_eq_true_eq] at sign
    rcases sign with rfl | rfl <;> exact absurd h (by decide)

theorem scanExponent_append {bytes rest : Bytes} {power : Option Int} (h : ExponentForm bytes power)
    (stops : Stops (fun byte => isDigit byte || byte = 0x65 || byte = 0x45) rest) :
    scanExponent (bytes ++ rest) = .ok (power, rest) := by
  cases h with
  | none =>
    cases rest with
    | nil => rfl
    | cons byte rest =>
      have stop := stops byte rfl
      simp only [Bool.or_eq_false_iff, decide_eq_false_iff_not] at stop
      simp [scanExponent, stop.1.2, stop.2]
  | @some mark sign digits negative letter signed form =>
    have stop : Stops isDigit rest := stops.mono fun byte digit => by simp [digit]
    have unsigned : Stops isSign (digits ++ rest) := by
      obtain ⟨first, more, rfl⟩ := List.exists_cons_of_ne_nil form.1
      rw [List.cons_append]
      exact stops_cons (isSign_of_isDigit (form.2 first List.mem_cons_self)) _
    have isMark : (mark = 0x65 || mark = 0x45) = true := by simpa using letter
    rw [List.cons_append, List.append_assoc, scanExponent]
    simp only [isMark, if_true, scanSign_append signed unsigned, scanDigits_append form stop]

/-- Whether a number is accepted: it is whole, or its value is not too large. -/
def fits (number : Number) : Bool :=
  number.whole || !isTooLarge number.significand number.exponent

theorem scanUnsigned_append {digits fraction exponent fractionDigits rest : Bytes}
    {power : Option Int} (integer : IntegerForm digits)
    (fraction_form : FractionForm fraction fractionDigits)
    (exponent_form : ExponentForm exponent power) (ends : EndsValue rest) (negative : Bool) :
    let number := ofParts negative digits fractionDigits power
    scanUnsigned negative (digits ++ fraction ++ exponent ++ rest) =
      if number.fits then .ok (number, rest) else .error .malformed := by
  intro number
  -- what stands behind a part never goes on with it, also where the parts between are left out
  have stop : Stops continues rest := stops_of_endsValue ends
  have stop_rest : Stops (fun byte => isDigit byte || byte = 0x65 || byte = 0x45) rest := by
    refine stop.mono fun byte more => ?_
    simp only [continues, Bool.or_eq_true] at more ⊢
    exact more.imp_left (Or.imp_left Or.inl)
  have stop_exponent : Stops (fun byte => isDigit byte || byte = 0x2E) (exponent ++ rest) := by
    refine Stops.append ?_ (stop.mono fun byte more => by simp [continues, more])
    cases exponent_form with
    | none => exact stops_nil
    | some mark => rcases mark with rfl | rfl <;> exact stops_cons (by decide) _
  have stop_fraction : Stops isDigit (fraction ++ (exponent ++ rest)) := by
    refine Stops.append ?_ (stop_exponent.mono fun byte digit => by simp [digit])
    cases fraction_form with
    | none => exact stops_nil
    | some => exact stops_cons (by decide) _
  rw [List.append_assoc, List.append_assoc, scanUnsigned]
  simp only [scanInteger_append integer stop_fraction,
    scanFraction_append fraction_form stop_exponent,
    scanExponent_append exponent_form stop_rest]
  cases whole : number.whole <;> cases large : isTooLarge number.significand number.exponent <;>
    simp [number, fits, whole, large]

/-- A number is read up to something that ends a value, if it is not too large. -/
theorem scan_append {literal rest : Bytes} {number : Number} (h : NumberForm literal number)
    (ends : EndsValue rest) :
    scan (literal ++ rest) = if number.fits then .ok (number, rest) else .error .malformed := by
  cases h with
  | positive integer fraction exponent =>
    have read := scanUnsigned_append integer fraction exponent ends false
    obtain ⟨first, more, rfl⟩ := List.exists_cons_of_ne_nil integer.1.1
    have unsigned : first ≠ 0x2D := by
      rintro rfl
      exact absurd (integer.1.2 0x2D List.mem_cons_self) (by decide)
    rw [List.cons_append, List.cons_append, List.cons_append] at read ⊢
    rw [scan, if_neg unsigned, read]
  | negative integer fraction exponent =>
    rw [List.cons_append, scan, if_pos rfl, scanUnsigned_append integer fraction exponent ends true]

/-! ## Natural numbers -/

/-- A number with one more digit. -/
def longer (n : Nat) (digit : UInt8) : Nat := n * 10 + (digit.toNat - 0x30)

theorem ofDigits_eq (digits : Bytes) : ofDigits digits = digits.foldl longer 0 := rfl

theorem keepDigits_cons (n : Nat) (digit : UInt8) (digits : Bytes) :
    keepDigits n (digit :: digits) =
      if longer n digit ≤ maxSignificand then keepDigits (longer n digit) digits
      else (n, digits.length + 1) := rfl

theorem le_foldl_longer (n : Nat) (digits : Bytes) : n ≤ digits.foldl longer n := by
  induction digits generalizing n with
  | nil => exact Nat.le_refl n
  | cons digit digits ih =>
    have step : n ≤ longer n digit := by
      rw [longer]
      omega
    exact Nat.le_trans step (ih _)

theorem keepDigits_of_le {n : Nat} {digits : Bytes} (h : digits.foldl longer n ≤ maxSignificand) :
    keepDigits n digits = (digits.foldl longer n, 0) := by
  induction digits generalizing n with
  | nil => rfl
  | cons digit digits ih =>
    have kept : longer n digit ≤ maxSignificand := Nat.le_trans (le_foldl_longer _ digits) h
    rw [keepDigits_cons, if_pos kept]
    exact ih h

theorem foldl_longer_le {n : Nat} {digits : Bytes} (small : n ≤ maxSignificand)
    (all : (keepDigits n digits).2 = 0) : digits.foldl longer n ≤ maxSignificand := by
  induction digits generalizing n with
  | nil => exact small
  | cons digit digits ih =>
    by_cases kept : longer n digit ≤ maxSignificand
    · rw [keepDigits_cons, if_pos kept] at all
      exact ih kept all
    · rw [keepDigits_cons, if_neg kept] at all
      cases all

theorem ofParts_of_le {digits : Bytes} (h : ofDigits digits ≤ maxSignificand) (negative : Bool) :
    ofParts negative digits [] none = ⟨negative, ofDigits digits, 0, true⟩ := by
  have kept : keepDigits 0 digits = (ofDigits digits, 0) := keepDigits_of_le h
  simp [ofParts, kept, keepDigits]

/-- A number counts as a natural number exactly if it is written as digits alone and fits 64
bits. -/
theorem natural?_eq_some_iff {literal : Bytes} {number : Number} (h : NumberForm literal number)
    (n : Nat) : number.natural? = some n ↔
      (∀ byte ∈ literal, isDigit byte = true) ∧ ofDigits literal = n ∧ n ≤ maxSignificand := by
  constructor
  · intro natural
    rw [natural?] at natural
    split at natural
    · rename_i plain
      cases h with
      | @positive digits fraction exponent fractionDigits power integer fraction_form
          exponent_form =>
        simp only [ofParts, Bool.and_eq_true, beq_iff_eq, List.isEmpty_iff,
          Option.isNone_iff_eq_none] at plain
        obtain ⟨⟨⟨all, rfl⟩, rfl⟩, -⟩ := plain
        cases exponent_form
        cases fraction_form with
        | some form => exact absurd rfl form.1
        | none =>
          have bound : ofDigits digits ≤ maxSignificand := foldl_longer_le (Nat.zero_le _) all
          rw [ofParts_of_le bound, Option.some.injEq] at natural
          simp only [List.append_nil]
          exact ⟨integer.1.2, natural, natural ▸ bound⟩
      | negative => simp [ofParts] at plain
    · cases natural
  · rintro ⟨digit, rfl, bound⟩
    cases h with
    | positive integer fraction_form exponent_form =>
      cases exponent_form with
      | some mark =>
        have letter := digit _ (List.mem_append_right _ List.mem_cons_self)
        rcases mark with rfl | rfl <;> exact absurd letter (by decide)
      | none =>
        cases fraction_form with
        | some => exact absurd (digit 0x2E (by simp)) (by decide)
        | none =>
          simp only [List.append_nil] at bound ⊢
          rw [ofParts_of_le bound]
          rfl
    | negative => exact absurd (digit 0x2D List.mem_cons_self) (by decide)

/-! ## Writing -/

open Utf8 (ofChars)

theorem isDigit_ofNat {c : Char} (h : c.isDigit = true) :
    c.toNat < 0x80 ∧ isDigit (UInt8.ofNat c.toNat) = true ∧
      (UInt8.ofNat c.toNat).toNat = c.toNat := by
  have digits : ∀ n < 58, 48 ≤ n → isDigit (UInt8.ofNat n) = true ∧ (UInt8.ofNat n).toNat = n := by
    decide
  simp only [Char.isDigit, Bool.and_eq_true, decide_eq_true_eq] at h
  have small : c.toNat < 58 := Nat.lt_succ_of_le h.2
  exact ⟨by omega, digits c.toNat small h.1⟩

theorem isDigit_of_mem_ofChars {cs : List Char} (h : ∀ c ∈ cs, c.isDigit = true) :
    ∀ byte ∈ ofChars cs, isDigit byte = true := by
  intro byte inside
  obtain ⟨c, found, inside⟩ := List.mem_flatMap.1 inside
  obtain ⟨ascii, digit, -⟩ := isDigit_ofNat (h c found)
  rw [Utf8.encodeChar_of_lt ascii, List.mem_singleton] at inside
  exact inside ▸ digit

theorem foldl_longer_ofChars {cs : List Char} (h : ∀ c ∈ cs, c.isDigit = true) (n : Nat) :
    (ofChars cs).foldl longer n = cs.foldl (fun n c => n * 10 + (c.toNat - '0'.toNat)) n := by
  induction cs generalizing n with
  | nil => rfl
  | cons c cs ih =>
    rw [List.forall_mem_cons] at h
    obtain ⟨ascii, -, value⟩ := isDigit_ofNat h.1
    rw [Utf8.ofChars_cons_of_lt ascii, List.foldl_cons, List.foldl_cons, ih h.2, longer, value]
    rfl

theorem isDigit_of_mem_toDigits {n : Nat} {c : Char} (h : c ∈ Nat.toDigits 10 n) :
    c.isDigit = true :=
  Nat.isDigit_of_mem_toDigits (by decide) (by decide) h

theorem ofDigits_toDigits (n : Nat) : ofDigits (ofChars (Nat.toDigits 10 n)) = n := by
  rw [ofDigits_eq, foldl_longer_ofChars fun c => isDigit_of_mem_toDigits]
  exact Decimal.ofDigits_toDigits n

theorem integerForm_toDigits (n : Nat) : IntegerForm (ofChars (Nat.toDigits 10 n)) := by
  have digit := isDigit_of_mem_ofChars fun c => isDigit_of_mem_toDigits (n := n)
  obtain ⟨first, more, digits, single⟩ := Decimal.toDigits_eq_cons n
  have isDigit : first.isDigit = true := isDigit_of_mem_toDigits (digits ▸ List.mem_cons_self)
  obtain ⟨ascii, -, value⟩ := isDigit_ofNat isDigit
  rw [digits, Utf8.ofChars_cons_of_lt ascii] at digit ⊢
  refine ⟨⟨List.cons_ne_nil _ _, digit⟩, fun others split => ?_⟩
  obtain ⟨zero, rfl⟩ := List.cons.inj split
  have first_eq : first = '0' := by
    rw [← Char.ofNat_toNat first, ← value, zero]
    decide
  rw [single first_eq, Utf8.ofChars_nil]

/-- What is written for a natural number of 64 bits is one of the ways to write it. -/
theorem numberForm_write {n : Nat} (h : n ≤ maxSignificand) :
    NumberForm (ofChars (write ⟨false, n, 0, true⟩)) ⟨false, n, 0, true⟩ := by
  have form := NumberForm.positive (integerForm_toDigits n) .none .none
  rw [ofParts_of_le (by rwa [ofDigits_toDigits]), ofDigits_toDigits] at form
  simpa [write] using form

end Number

end AccessStream.Json

import AccessStream.Decimal.Binary64
import AccessStream.Json.Quoted

/-!
# JSON numbers

A number is kept as a significand of at most 64 bits and a power of ten. Digits that do not fit any
more are dropped: before the decimal point they still count for the power of ten, after it they do
not. A number whose value no binary64 can hold is no number at all. A whole number, written without
sign, fraction or exponent and below 2^64, is its significand.
-/

namespace AccessStream.Json

/-- A number as it is written in a text. -/
structure Number where
  /-- Whether it starts with a minus sign. -/
  negative : Bool
  /-- The digits that were kept. -/
  significand : Nat
  /-- The power of ten that the digits count. -/
  exponent : Int
  /-- Whether it has no fraction, no exponent and no dropped digit. -/
  whole : Bool
  deriving DecidableEq, Repr

namespace Number

/-- The greatest significand. -/
def maxSignificand : Nat := Nat.pow 2 64 - 1

/-- The natural number that a number writes, if it is whole and has no sign. -/
def natural? (number : Number) : Option Nat :=
  if number.whole && !number.negative then some number.significand else none

/-- Whether the value is past what a binary64 can hold: the significand and the power of ten are
rounded, and so is their product. -/
def isTooLarge (significand : Nat) (exponent : Int) : Bool :=
  significand ≠ 0 && 0 ≤ exponent &&
    (308 < exponent ||
      Nat.pow 2 1024 - Nat.pow 2 970 ≤
        Binary64.roundNat significand * Binary64.roundNat (Nat.pow 10 exponent.toNat))

/-- Whether a byte is a decimal digit. -/
def isDigit (byte : UInt8) : Bool := 0x30 ≤ byte && byte ≤ 0x39

/-- A significand with as many digits added as fit, and the number of digits that did not. -/
def keepDigits (significand : Nat) : Bytes → Nat × Nat
  | [] => (significand, 0)
  | digit :: digits =>
    let longer := significand * 10 + (digit.toNat - 0x30)
    if longer ≤ maxSignificand then keepDigits longer digits else (significand, digits.length + 1)

/-- The digits at the front of a text, of which there must be one, and what follows them. -/
def scanDigits (input : Bytes) : Except Fault (Bytes × Bytes) :=
  match input with
  | [] => .error .truncated
  | byte :: _ =>
    if isDigit byte then .ok (input.takeWhile isDigit, input.dropWhile isDigit)
    else .error .malformed

/-- The fraction of a number after its digits so far: the digits after a decimal point, if there is
one. -/
def scanFraction (input : Bytes) : Except Fault (Bytes × Bytes) :=
  match input with
  | byte :: rest => if byte = 0x2E then scanDigits rest else .ok ([], input)
  | [] => .ok ([], [])

/-- The sign of an exponent, which is a plus if there is none, and what follows it: whether the
exponent is negative. -/
def scanSign (input : Bytes) : Bool × Bytes :=
  match input with
  | sign :: rest =>
    if sign = 0x2B then (false, rest) else if sign = 0x2D then (true, rest) else (false, input)
  | [] => (false, [])

/-- The number that decimal digits write. -/
def ofDigits (digits : Bytes) : Nat := digits.foldl (fun n d => n * 10 + (d.toNat - 0x30)) 0

/-- A natural number or its negation. -/
def signed (negative : Bool) (n : Nat) : Int := if negative then -n else n

/-- The exponent of a number after its digits, if there is one. -/
def scanExponent (input : Bytes) : Except Fault (Option Int × Bytes) :=
  match input with
  | byte :: rest =>
    if byte = 0x65 || byte = 0x45 then
      match scanDigits (scanSign rest).2 with
      | .error fault => .error fault
      | .ok (digits, after) =>
        .ok (some (signed (scanSign rest).1 (ofDigits digits)), after)
    else .ok (none, input)
  | [] => .ok (none, [])

/-- The digits before the decimal point: a zero, or digits that do not start with a zero. -/
def scanInteger (input : Bytes) : Except Fault (Bytes × Bytes) :=
  match input with
  | [] => .error .truncated
  | byte :: rest =>
    if byte = 0x30 then
      if (rest.head?.any isDigit) then .error .malformed else .ok ([byte], rest)
    else scanDigits input

/-- The number with the given digits before and after the decimal point and the given exponent. -/
def ofParts (negative : Bool) (digits fraction : Bytes) (exponent : Option Int) : Number :=
  let before := keepDigits 0 digits
  let all := keepDigits before.1 fraction
  { negative
    significand := all.1
    exponent := (before.2 : Int) - ((fraction.length - all.2 : Nat) : Int) + exponent.getD 0
    whole := before.2 == 0 && fraction.isEmpty && exponent.isNone }

/-- The number at the front of a text, after its sign. -/
def scanUnsigned (negative : Bool) (input : Bytes) : Except Fault (Number × Bytes) :=
  match scanInteger input with
  | .error fault => .error fault
  | .ok (digits, rest) =>
    match scanFraction rest with
    | .error fault => .error fault
    | .ok (fraction, rest) =>
      match scanExponent rest with
      | .error fault => .error fault
      | .ok (exponent, rest) =>
        let number := ofParts negative digits fraction exponent
        if !number.whole && isTooLarge number.significand number.exponent then .error .malformed
        else .ok (number, rest)

/-- The number at the front of a text. -/
def scan (input : Bytes) : Except Fault (Number × Bytes) :=
  match input with
  | byte :: rest => if byte = 0x2D then scanUnsigned true rest else scanUnsigned false input
  | [] => .error .truncated

theorem length_dropWhile_le {α : Type} (p : α → Bool) (l : List α) :
    (l.dropWhile p).length ≤ l.length :=
  (List.dropWhile_sublist p).length_le

theorem length_of_scanDigits {input digits rest : Bytes}
    (h : scanDigits input = .ok (digits, rest)) : rest.length < input.length := by
  unfold scanDigits at h
  repeat' split at h
  all_goals simp at h
  rename_i byte tail isDigit
  obtain ⟨_, rfl⟩ := h
  have := length_dropWhile_le Number.isDigit tail
  simp only [List.dropWhile_cons, isDigit, if_true, List.length_cons]
  omega

theorem length_of_scanFraction {input digits rest : Bytes}
    (h : scanFraction input = .ok (digits, rest)) : rest.length ≤ input.length := by
  unfold scanFraction at h
  repeat' split at h
  · have := length_of_scanDigits h
    simp only [List.length_cons]
    omega
  all_goals simp at h
  all_goals simp [← h.2]

theorem length_scanSign_le (input : Bytes) : (scanSign input).2.length ≤ input.length := by
  unfold scanSign
  repeat' split
  all_goals simp

theorem length_of_scanExponent {input : Bytes} {exponent : Option Int} {rest : Bytes}
    (h : scanExponent input = .ok (exponent, rest)) : rest.length ≤ input.length := by
  unfold scanExponent at h
  repeat' split at h
  all_goals simp at h
  · rename_i tail _ _ _ _ digits
    have := length_of_scanDigits digits
    have := length_scanSign_le tail
    rw [← h.2]
    simp only [List.length_cons]
    omega
  all_goals simp [← h.2]

theorem length_of_scanInteger {input digits rest : Bytes}
    (h : scanInteger input = .ok (digits, rest)) : rest.length < input.length := by
  unfold scanInteger at h
  repeat' split at h
  · simp at h
  · simp at h
  · simp at h
    simp [h.2]
  · exact length_of_scanDigits h

theorem length_of_scanUnsigned {negative : Bool} {input : Bytes} {number : Number} {rest : Bytes}
    (h : scanUnsigned negative input = .ok (number, rest)) : rest.length < input.length := by
  unfold scanUnsigned at h
  split at h
  · simp at h
  rename_i integer
  split at h
  · simp at h
  rename_i fraction
  split at h
  · simp at h
  rename_i exponent
  simp only at h
  split at h
  · simp at h
  have := length_of_scanInteger integer
  have := length_of_scanFraction fraction
  have := length_of_scanExponent exponent
  simp only [Except.ok.injEq, Prod.mk.injEq] at h
  rw [← h.2]
  omega

theorem length_of_scan {input : Bytes} {number : Number} {rest : Bytes}
    (h : scan input = .ok (number, rest)) : rest.length < input.length := by
  unfold scan at h
  repeat' split at h
  · have := length_of_scanUnsigned h
    simp only [List.length_cons]
    omega
  · exact length_of_scanUnsigned h
  · simp at h

end Number

end AccessStream.Json

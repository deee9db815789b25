/-!
# Decimal digits

Whole numbers as decimal digits, with or without a sign in front.
-/

namespace AccessStream.Decimal

/-- The number that some decimal digits write. -/
def ofDigits (digits : List Char) : Nat :=
  digits.foldl (fun n c => n * 10 + (c.toNat - '0'.toNat)) 0

/-- The number that a text writes, if it consists of at least one digit. -/
def natural? (text : List Char) : Option Nat :=
  if text ≠ [] && text.all Char.isDigit then some (ofDigits text) else none

/-- The sign in front of a text, which is negative if it is a minus, and the rest of the text. -/
def splitSign : List Char → Bool × List Char
  | '+' :: rest => (false, rest)
  | '-' :: rest => (true, rest)
  | text => (false, text)

/-- A number or its negation. -/
def signed (negative : Bool) (size : Nat) : Int := if negative then -size else size

/-- The whole number that a text writes, with or without a sign. -/
def integer? (text : List Char) : Option Int :=
  let (negative, digits) := splitSign text
  (natural? digits).map (signed negative)

/-- The digits of a number, after a minus sign if it is negative. -/
def write (value : Int) : List Char :=
  (if value < 0 then ['-'] else []) ++ Nat.toDigits 10 value.natAbs

end AccessStream.Decimal

import AccessStream.Decimal.Binary64
import AccessStream.Decimal.Digits

/-!
# Numbers as texts

A number of the format binary64 is written with or without a sign, as digits with a point and an
exponent where they are wanted, or as a word for an infinity or for no number, in letters of either
case.
-/

namespace AccessStream.Binary64

/-- The exponent at the end of a number, which is zero if there is none. -/
def exponent? : List Char → Option Int
  | [] => some 0
  | mark :: rest => if mark = 'e' || mark = 'E' then Decimal.integer? rest else none

/-- The number that a text writes with digits, of which some may stand after a point, and an
exponent. -/
def ofDecimalText? (negative : Bool) (text : List Char) : Option Binary64 := do
  let whole := text.takeWhile Char.isDigit
  let rest := text.dropWhile Char.isDigit
  let (fraction, rest) := match rest with
    | '.' :: rest => (rest.takeWhile Char.isDigit, rest.dropWhile Char.isDigit)
    | _ => ([], rest)
  let exponent ← exponent? rest
  let size ← Decimal.natural? (whole ++ fraction)
  return .ofDecimal negative size (exponent - fraction.length)

/-- The number that a text writes. -/
def ofText? (text : List Char) : Option Binary64 :=
  let (negative, rest) := Decimal.splitSign text
  let word := String.ofList (rest.map Char.toLower)
  if word = "inf" || word = "infinity" then some (.infinite negative)
  else if word = "nan" then some .nan
  else ofDecimalText? negative rest

end AccessStream.Binary64

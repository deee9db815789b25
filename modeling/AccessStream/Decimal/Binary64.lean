/-!
# Binary floating point

The numbers of the format binary64, as exact values: a number below 2^53 times a power of two.
Reading a decimal number takes the nearest of them, with ties to the even significand, and writing
one takes the shortest decimal number that reads back, in positional notation.
-/

namespace AccessStream

/-- A number of the format binary64. -/
inductive Binary64 where
  /-- Not a number. -/
  | nan
  /-- An infinity. -/
  | infinite (negative : Bool)
  /-- The number `significand * 2 ^ exponent`, or its negation. -/
  | finite (negative : Bool) (significand : Nat) (exponent : Int)
  deriving DecidableEq, Repr

namespace Binary64

/-- The least exponent, that of the numbers nearest to zero. -/
def minExponent : Int := -1074

/-- The greatest exponent of a finite number. -/
def maxExponent : Int := 971

/-- A quotient rounded to the nearest natural number; a tie goes to the even one. -/
def roundDiv (num den : Nat) : Nat :=
  let quotient := num / den
  let twice := 2 * (num % den)
  if twice > den || (twice == den && quotient % 2 == 1) then quotient + 1 else quotient

/-- The ratio `num / (den * 2 ^ exponent)` as numerator and denominator. -/
def scale (num den : Nat) (exponent : Int) : Nat × Nat :=
  if 0 ≤ exponent then (num, den * Nat.pow 2 exponent.toNat)
  else (num * Nat.pow 2 (-exponent).toNat, den)

/-- The number nearest to a ratio of natural numbers. -/
def ofRatio (negative : Bool) (num den : Nat) : Binary64 :=
  if num = 0 then .finite negative 0 minExponent
  else
    let estimate : Int := (num.log2 : Int) - den.log2 - 52
    let (n, d) := scale num den estimate
    let exponent := max (if n < d * Nat.pow 2 52 then estimate - 1 else estimate) minExponent
    let (n, d) := scale num den exponent
    let significand := roundDiv n d
    let (significand, exponent) :=
      if significand = Nat.pow 2 53 then (Nat.pow 2 52, exponent + 1) else (significand, exponent)
    if exponent > maxExponent then .infinite negative else .finite negative significand exponent

/-- How many decimal digits write a number. -/
def digitCount (n : Nat) : Nat := (Nat.toDigits 10 n).length

/-- The number nearest to `digits * 10 ^ exponent`. -/
def ofDecimal (negative : Bool) (digits : Nat) (exponent : Int) : Binary64 :=
  if digits = 0 then .finite negative 0 minExponent
  else
    let magnitude := (digitCount digits : Int) + exponent
    if magnitude > 310 then .infinite negative
    else if magnitude < -330 then .finite negative 0 minExponent
    else if 0 ≤ exponent then ofRatio negative (digits * Nat.pow 10 exponent.toNat) 1
    else ofRatio negative digits (Nat.pow 10 (-exponent).toNat)

/-- Whether the number is neither infinite nor undefined. -/
def isFinite : Binary64 → Bool
  | .finite .. => true
  | _ => false

/-- A natural number rounded to 53 significant bits; a tie goes to the even neighbour. -/
def roundNat (n : Nat) : Nat :=
  let unit := Nat.pow 2 (n.log2 + 1 - 53)
  roundDiv n unit * unit

/-- The bounds, in quarters of the last binary place, between which a decimal number reads back as
the significand, and whether the bounds themselves do. -/
def quarterBounds (significand : Nat) (exponent : Int) : Nat × Nat × Bool :=
  let low := if significand = Nat.pow 2 52 ∧ minExponent < exponent then 1 else 2
  (4 * significand - low, 4 * significand + 2, significand % 2 = 0)

/-- How `a * 10 ^ place` compares with a quarter of `b * 2 ^ exponent`. -/
def compareDecimal (a : Nat) (place : Int) (b : Nat) (exponent : Int) : Ordering :=
  compare (4 * a * Nat.pow 10 place.toNat * Nat.pow 2 (-exponent).toNat)
    (b * Nat.pow 2 exponent.toNat * Nat.pow 10 (-place).toNat)

/-- The multiple of `10 ^ place` that reads back as the given positive number, if there is one; of
two the nearer. -/
def atPlace? (significand : Nat) (exponent : Int) (place : Int) : Option Nat :=
  let below := significand * Nat.pow 2 exponent.toNat * Nat.pow 10 (-place).toNat /
    (Nat.pow 10 place.toNat * Nat.pow 2 (-exponent).toNat)
  let (low, high, inclusive) := quarterBounds significand exponent
  let within (n : Nat) : Bool :=
    let toLow := compareDecimal n place low exponent
    let toHigh := compareDecimal n place high exponent
    (toLow == .gt || (inclusive && toLow == .eq)) && (toHigh == .lt || (inclusive && toHigh == .eq))
  match within below, within (below + 1) with
  | true, true =>
    -- The midpoint of the two neighbours decides which of them is nearer.
    let midpoint := compareDecimal (2 * below + 1) place (8 * significand) exponent
    some (if midpoint == .lt || (midpoint == .eq && below % 2 == 1) then below + 1 else below)
  | true, false => some below
  | false, true => some (below + 1)
  | false, false => none

/-- The shortest decimal number that reads back as the given positive number: its digits and the
power of ten that they count. -/
def shortest (significand : Nat) (exponent : Int) : Nat × Int :=
  let top : Int := (digitCount (significand * Nat.pow 2 exponent.toNat) : Int) -
    digitCount (Nat.pow 2 (-exponent).toNat) + 1
  let places := (List.range 24).map fun i : Nat => top - i
  (places.findSome? fun place =>
    (atPlace? significand exponent place).map fun digits => (digits, place)).getD (significand, 0)

/-- The digits of `digits * 10 ^ place`, with a decimal point if the number has places after it. -/
def positional (digits : Nat) (place : Int) : List Char :=
  let text := Nat.toDigits 10 digits
  if 0 ≤ place then text ++ List.replicate place.toNat '0'
  else
    let after := (-place).toNat
    if after < text.length then
      text.take (text.length - after) ++ '.' :: text.drop (text.length - after)
    else '0' :: '.' :: (List.replicate (after - text.length) '0' ++ text)

/-- The shortest text that reads back, without an exponent. -/
def toText : Binary64 → String
  | .nan => "NaN"
  | .infinite negative => if negative then "-inf" else "inf"
  | .finite negative significand exponent =>
    let digits :=
      if significand = 0 then ['0']
      else
        let (digits, place) := shortest significand exponent
        positional digits place
    String.ofList (if negative then '-' :: digits else digits)

/-- The nearest natural number, with halves away from zero; what is below zero or undefined gives
zero, and nothing gives more than `limit`. -/
def toNat (limit : Nat) : Binary64 → Nat
  | .nan => 0
  | .infinite negative => if negative then 0 else limit
  | .finite true _ _ => 0
  | .finite false significand exponent =>
    let unit := Nat.pow 2 (-exponent).toNat
    min limit ((2 * significand * Nat.pow 2 exponent.toNat + unit) / (2 * unit))

example : (ofDecimal false 15 (-1)).toText = "1.5" := by decide +kernel
example : (ofDecimal false 1 3).toText = "1000" := by decide +kernel
example : (ofDecimal true 1 (-7)).toText = "-0.0000001" := by decide +kernel
example : (ofDecimal false 24 (-1)).toNat 100 = 2 := by decide +kernel
example : ofDecimal false 1 309 = .infinite false := by decide +kernel

end Binary64

end AccessStream

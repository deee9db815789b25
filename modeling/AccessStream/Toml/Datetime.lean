import AccessStream.Decimal.Digits

/-!
# Dates and times

A date, a time of day, or both, with or without an offset from universal time. Writing gives every
field its full number of digits; the seconds and their fraction are written as far as they were
given.
-/

namespace AccessStream.Toml

/-- A day of the calendar. -/
structure Date where
  /-- The year. -/
  year : Nat
  /-- The month, from one. -/
  month : Nat
  /-- The day of the month, from one. -/
  day : Nat
  deriving DecidableEq, Repr

/-- A time of day. -/
structure Time where
  /-- The hour. -/
  hour : Nat
  /-- The minute. -/
  minute : Nat
  /-- The second, if it was given. -/
  second : Option Nat
  /-- The billionths of a second, if a fraction was given. -/
  nanosecond : Option Nat
  deriving DecidableEq, Repr

/-- A distance from universal time. -/
inductive Offset where
  /-- None. -/
  | utc
  /-- Hours and minutes, before or after; none at all are not before. -/
  | fixed (negative : Bool) (hours minutes : Nat)
  deriving DecidableEq, Repr

/-- A date, a time, or both. -/
structure Datetime where
  /-- The date. -/
  date : Option Date := none
  /-- The time. -/
  time : Option Time := none
  /-- The offset. -/
  offset : Option Offset := none
  deriving DecidableEq, Repr

namespace Datetime

/-- A number of exactly as many digits as asked for, and what follows it. -/
def number? (count : Nat) (text : List Char) : Option (Nat × List Char) :=
  let digits := text.take count
  if digits.length = count && digits.all Char.isDigit then
    some (Decimal.ofDigits digits, text.drop count)
  else none

/-- A number of two digits of at most the given size, and what follows it. -/
def field? (most : Nat) (text : List Char) : Option (Nat × List Char) :=
  match number? 2 text with
  | some (value, rest) => if value ≤ most then some (value, rest) else none
  | none => none

/-- The text after a character that it must start with. -/
def mark? (c : Char) : List Char → Option (List Char)
  | first :: rest => if first = c then some rest else none
  | [] => none

/-- The number of days of a month. -/
def daysIn (year month : Nat) : Nat :=
  if month = 2 then if year % 4 = 0 && (year % 100 ≠ 0 || year % 400 = 0) then 29 else 28
  else if month ∈ [4, 6, 9, 11] then 30
  else 31

/-- The date at the front of a text, and what follows it. -/
def date? (text : List Char) : Option (Date × List Char) := do
  let (year, rest) ← number? 4 text
  let (month, rest) ← field? 12 (← mark? '-' rest)
  let (day, rest) ← field? (daysIn year month) (← mark? '-' rest)
  if month = 0 || day = 0 then none else some (⟨year, month, day⟩, rest)

/-- The billionths of a second that the digits of a fraction write; further digits are dropped. -/
def nanoseconds (digits : List Char) : Nat :=
  Decimal.ofDigits (digits.take 9) * Nat.pow 10 (9 - digits.length)

/-- The fraction of a second at the front of a text, if there is one, and what follows it. -/
def fraction? (text : List Char) : Option (Option Nat × List Char) :=
  match text with
  | '.' :: rest =>
    let digits := rest.takeWhile Char.isDigit
    if digits.isEmpty then none else some (some (nanoseconds digits), rest.drop digits.length)
  | _ => some (none, text)

/-- The time at the front of a text, and what follows it. -/
def time? (text : List Char) : Option (Time × List Char) := do
  let (hour, rest) ← field? 23 text
  let (minute, rest) ← field? 59 (← mark? ':' rest)
  match rest with
  | ':' :: rest => do
    let (second, rest) ← field? 60 rest
    let (nanosecond, rest) ← fraction? rest
    return (⟨hour, minute, some second, nanosecond⟩, rest)
  | _ => return (⟨hour, minute, none, none⟩, rest)

/-- The hours and minutes of an offset that a text consists of. -/
def fixedOffset? (negative : Bool) (text : List Char) : Option (Option Offset) := do
  let (hours, rest) ← field? 23 text
  let (minutes, rest) ← field? 59 (← mark? ':' rest)
  let before := negative && (hours ≠ 0 || minutes ≠ 0)
  if rest.isEmpty then some (some (.fixed before hours minutes)) else none

/-- The offset that a text consists of, if it is not empty. -/
def offset? : List Char → Option (Option Offset)
  | [] => some none
  | ['Z'] => some (some .utc)
  | ['z'] => some (some .utc)
  | '+' :: rest => fixedOffset? false rest
  | '-' :: rest => fixedOffset? true rest
  | _ => none

/-- The date and time that a text consists of. -/
def read? (text : List Char) : Option Datetime :=
  match date? text with
  | some (date, []) => some { date := some date }
  | some (date, mark :: rest) =>
    if mark = 'T' || mark = 't' || mark = ' ' then do
      let (time, rest) ← time? rest
      let offset ← offset? rest
      return { date := some date, time := some time, offset }
    else none
  | none =>
    match time? text with
    | some (time, []) => some { time := some time }
    | _ => none

/-- A number with at least as many digits as asked for. -/
def padded (count n : Nat) : List Char :=
  let digits := Nat.toDigits 10 n
  List.replicate (count - digits.length) '0' ++ digits

/-- The text of a date. -/
def writeDate (date : Date) : List Char :=
  padded 4 date.year ++ '-' :: padded 2 date.month ++ '-' :: padded 2 date.day

/-- The digits of a fraction without zeros at their end, of which one stays. -/
def writeFraction (nanosecond : Nat) : List Char :=
  let digits := ((padded 9 nanosecond).reverse.dropWhile (· = '0')).reverse
  '.' :: if digits.isEmpty then ['0'] else digits

/-- The text of a time. -/
def writeTime (time : Time) : List Char :=
  padded 2 time.hour ++ ':' :: padded 2 time.minute ++
    (match time.second with
    | some second => ':' :: padded 2 second
    | none => []) ++
    match time.nanosecond with
    | some nanosecond => writeFraction nanosecond
    | none => []

/-- The text of an offset. -/
def writeOffset : Offset → List Char
  | .utc => ['Z']
  | .fixed negative hours minutes =>
    (if negative then '-' else '+') :: padded 2 hours ++ ':' :: padded 2 minutes

/-- The text of a date and time. -/
def toText (datetime : Datetime) : String :=
  let date := (datetime.date.map writeDate).getD []
  let time := (datetime.time.map writeTime).getD []
  let mark := if datetime.date.isSome && datetime.time.isSome then ['T'] else []
  String.ofList (date ++ mark ++ time ++ (datetime.offset.map writeOffset).getD [])

example : (read? "1979-05-27 07:32:00.500z".toList).map toText = some "1979-05-27T07:32:00.5Z" := by
  decide +kernel
example : (read? "1979-02-29".toList).isNone := by decide +kernel

end Datetime

end AccessStream.Toml

import AccessStream.Decimal.Digits

/-!
# Log levels

The entries of a log have one of five levels. A limit is given by the rank of the last level that is
logged; rank zero stands for none.
-/

namespace AccessStream.Log

/-- The level of an entry, from the most to the least important. -/
inductive Level where
  /-- A failure. -/
  | error
  /-- Something that may need attention. -/
  | warn
  /-- The course of the program. -/
  | info
  /-- Details of the course. -/
  | debug
  /-- All details. -/
  | trace
  deriving DecidableEq, Repr

namespace Level

/-- The name of a level in log lines. -/
def name : Level → String
  | error => "ERROR"
  | warn => "WARN"
  | info => "INFO"
  | debug => "DEBUG"
  | trace => "TRACE"

/-- The rank of a level, from one. -/
def rank : Level → Nat
  | error => 1
  | warn => 2
  | info => 3
  | debug => 4
  | trace => 5

/-- The rank that a word names: the name of a level, `off`, or a number up to five. -/
def rank? (word : String) : Option Nat :=
  let digits := match word.toList with
    | '+' :: rest => rest
    | text => text
  match Decimal.natural? digits with
  | some number => if number ≤ 5 then some number else none
  | none =>
    [("off", 0), ("error", 1), ("warn", 2), ("info", 3), ("debug", 4), ("trace", 5)].lookup
      word.toLower

end Level

end AccessStream.Log

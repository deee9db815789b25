import AccessStream.Decimal.Binary64
import AccessStream.Toml.Datetime

/-!
# TOML values

What a TOML text says: a tree of tables and arrays with texts, numbers, booleans and dates at its
leaves.
-/

namespace AccessStream.Toml

/-- A TOML value. -/
inductive Value where
  /-- A text. -/
  | text (content : String)
  /-- A whole number. -/
  | integer (value : Int)
  /-- A number with a fraction or an exponent, an infinity, or no number. -/
  | float (value : Binary64)
  /-- The word `true` or `false`. -/
  | boolean (value : Bool)
  /-- A date, a time, or both. -/
  | datetime (value : Datetime)
  /-- A number past what a reader can take: a whole number of more than 128 bits, or another whose
  value no binary64 can hold. -/
  | unreadable
  /-- An array with its items. -/
  | array (items : List Value)
  /-- A table with its entries; no two have the same key. -/
  | table (entries : List (String × Value))
  deriving Repr

namespace Value

/-- The entry of a table with the given key. -/
def get? (key : String) : Value → Option Value
  | table entries => entries.lookup key
  | _ => none

end Value

end AccessStream.Toml

import AccessStream.Settings.Reading
import AccessStream.Toml.Value

/-!
# Settings before their types are known

Settings from several places are laid over each other before anyone asks for their types: tables are
merged, and any other value takes the place of what was there. Only then are they read, and a value
of one type may be taken for another: a number or a boolean for a text, and a text for a number.
-/

namespace AccessStream.Settings

/-- A value whose type nobody has asked for yet. -/
inductive Raw where
  /-- No value. -/
  | null
  /-- A boolean. -/
  | boolean (value : Bool)
  /-- A whole number. -/
  | integer (value : Int)
  /-- A number of the format binary64. -/
  | float (value : Binary64)
  /-- A text. -/
  | text (content : String)
  /-- A list. -/
  | list (items : List Raw)
  /-- A table. -/
  | table (entries : List (String × Raw))
  deriving Repr

namespace Raw

/-- The entries of a table; another value has none. -/
def entries : Raw → Fields Raw
  | table entries => entries
  | _ => []

/-- The items of a list; another value has none. -/
def items : Raw → List Raw
  | list items => items
  | _ => []

/-- Some entries with one replaced, or added at the end. -/
def replace (entries : Fields Raw) (name : String) (value : Raw) : Fields Raw :=
  match entries with
  | [] => [(name, value)]
  | (other, found) :: rest =>
    if other = name then (name, value) :: rest else (other, found) :: replace rest name value

mutual

/-- A value with another laid over it: a table adds its entries to those that are there, and any
other value takes the place of what was there. -/
def lay (target : Raw) : Raw → Raw
  | .table incoming => .table (layAll target.entries incoming)
  | .null => .null
  | .boolean value => .boolean value
  | .integer value => .integer value
  | .float value => .float value
  | .text content => .text content
  | .list items => .list items

/-- Some entries with others laid over those of the same names. -/
def layAll (entries : Fields Raw) : Fields Raw → Fields Raw
  | [] => entries
  | (name, value) :: incoming =>
    layAll (replace entries name (lay ((entries.lookup name).getD .null) value)) incoming

end

/-- The text that a value says. -/
def text? : Raw → Option String
  | boolean value => some (if value then "true" else "false")
  | integer value => some (String.ofList (Decimal.write value))
  | float value => some value.toText
  | text content => some content
  | _ => none

/-- The greatest number that can be read. -/
def maxNatural : Nat := Nat.pow 2 64 - 1

/-- The number that decimal digits write, after a plus sign if there is one. -/
def digits? : List Char → Option Nat
  | '+' :: rest => Decimal.natural? rest
  | digits => Decimal.natural? digits

/-- The number that a text says: digits, or a word for yes or no. -/
def naturalOfText? (content : String) : Option Nat :=
  let word := content.toLower
  if word ∈ ["true", "on", "yes"] then some 1
  else if word ∈ ["false", "off", "no"] then some 0
  else (digits? content.toList).filter (· ≤ maxNatural)

/-- The number that a value says. A number with a fraction is rounded, and one that is out of range
goes to the nearest end of the range. -/
def natural? : Raw → Option Nat
  | boolean value => some (if value then 1 else 0)
  | integer value => if 0 ≤ value then some value.toNat else none
  | float value => some (value.toNat maxNatural)
  | text content => naturalOfText? content
  | _ => none

mutual

/-- A TOML value; whole numbers must have at most 64 bits, and dates become texts. -/
def ofToml? : Toml.Value → Option Raw
  | .text content => some (.text content)
  | .integer value =>
    if -Nat.pow 2 63 ≤ value && value < Nat.pow 2 63 then some (.integer value) else none
  | .float value => some (.float value)
  | .boolean value => some (.boolean value)
  | .datetime value => some (.text value.toText)
  | .unreadable => none
  | .array items => (ofTomlItems? items).map .list
  | .table entries => (ofTomlEntries? entries).map .table

/-- Some TOML values. -/
def ofTomlItems? : List Toml.Value → Option (List Raw)
  | [] => some []
  | item :: items => do return (← ofToml? item) :: (← ofTomlItems? items)

/-- The entries of a TOML table. -/
def ofTomlEntries? : List (String × Toml.Value) → Option (Fields Raw)
  | [] => some []
  | (name, value) :: entries => do return (name, ← ofToml? value) :: (← ofTomlEntries? entries)

end

end Raw

/-- Reads values whatever their types, as far as they make sense. -/
def Reading.lenient : Reading Raw where
  fields? names
    | .table entries => some entries
    | .list items => some (names.zip items)
    | _ => none
  text? := Raw.text?
  path?
    | .null => some none
    | value => value.text?.map some
  word?
    | .text content => some content
    | .table [(name, _)] => some name
    | _ => none
  natural? := Raw.natural?

/-- The entries of settings, as the lowest layer. -/
def toLayer (settings : Settings) : Fields Raw :=
  [("policy", .table (match settings.policyPath with
    | some path => [("path", .text path)]
    | none => [])),
   ("pipeline", .table [("flush", .text settings.flush.name),
     ("max_record_bytes", .integer settings.maxRecordBytes)]),
   ("logging", .table [("level", .text settings.logLevel)])]

end AccessStream.Settings

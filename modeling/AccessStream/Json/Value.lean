import AccessStream.Json.Number

/-!
# JSON values and their texts

A JSON document as a tree. `compact` writes it without any blanks; `pretty` puts each item and each
member on a line of its own, indented by two spaces a level, and leaves empty arrays and objects as
they are. Members are written in the order of the tree.
-/

namespace AccessStream.Json

/-- A JSON document. -/
inductive Value where
  /-- The word `null`. -/
  | null
  /-- The word `true` or `false`. -/
  | bool (value : Bool)
  /-- A number. -/
  | number (value : Number)
  /-- A string. -/
  | string (text : String)
  /-- An array with its items. -/
  | array (items : List Value)
  /-- An object with its members, in the order in which they are written. -/
  | object (members : List (String × Value))
  deriving Repr

/-- The text of a number. -/
def Number.write (number : Number) : List Char :=
  (if number.negative then ['-'] else []) ++ Nat.toDigits 10 number.significand ++
    if number.whole then []
    else 'e' :: (if number.exponent < 0 then ['-'] else []) ++
      Nat.toDigits 10 number.exponent.natAbs

namespace Value

/-- A natural number as a document. -/
def ofNat (n : Nat) : Value := .number ⟨false, n, 0, true⟩

/-- The texts of words. -/
def writeBool (value : Bool) : List Char :=
  if value then ['t', 'r', 'u', 'e'] else ['f', 'a', 'l', 's', 'e']

mutual

/-- The text of a document without blanks. -/
def compact : Value → List Char
  | .null => ['n', 'u', 'l', 'l']
  | .bool value => writeBool value
  | .number value => value.write
  | .string text => Quoted.write text
  | .array items => '[' :: compactItems items
  | .object members => '{' :: compactMembers members

/-- The items of an array after its opening bracket, and the closing one. -/
def compactItems : List Value → List Char
  | [] => [']']
  | [item] => compact item ++ [']']
  | item :: items => compact item ++ ',' :: compactItems items

/-- The members of an object after its opening brace, and the closing one. -/
def compactMembers : List (String × Value) → List Char
  | [] => ['}']
  | [(key, value)] => Quoted.write key ++ ':' :: compact value ++ ['}']
  | (key, value) :: members =>
    Quoted.write key ++ ':' :: compact value ++ ',' :: compactMembers members

end

/-- A line end and the indentation of a level. -/
def newLine (level : Nat) : List Char := '\n' :: List.replicate (2 * level) ' '

mutual

/-- The text of a document at a level of indentation. -/
def prettyAt (level : Nat) : Value → List Char
  | .null => ['n', 'u', 'l', 'l']
  | .bool value => writeBool value
  | .number value => value.write
  | .string text => Quoted.write text
  | .array [] => ['[', ']']
  | .array items => '[' :: prettyItems level items
  | .object [] => ['{', '}']
  | .object members => '{' :: prettyMembers level members

/-- The items of an array, each on a line one level deeper, and the closing bracket. -/
def prettyItems (level : Nat) : List Value → List Char
  | [] => newLine level ++ [']']
  | [item] => newLine (level + 1) ++ prettyAt (level + 1) item ++ newLine level ++ [']']
  | item :: items =>
    newLine (level + 1) ++ prettyAt (level + 1) item ++ ',' :: prettyItems level items

/-- The members of an object, each on a line one level deeper, and the closing brace. -/
def prettyMembers (level : Nat) : List (String × Value) → List Char
  | [] => newLine level ++ ['}']
  | [(key, value)] =>
    newLine (level + 1) ++ Quoted.write key ++ ':' :: ' ' :: prettyAt (level + 1) value ++
      newLine level ++ ['}']
  | (key, value) :: members =>
    newLine (level + 1) ++ Quoted.write key ++ ':' :: ' ' :: prettyAt (level + 1) value ++
      ',' :: prettyMembers level members

end

/-- The text of a document without blanks. -/
def toCompact (value : Value) : String := String.ofList value.compact

/-- The text of a document on indented lines. -/
def toPretty (value : Value) : String := String.ofList (value.prettyAt 0)

end Value

end AccessStream.Json

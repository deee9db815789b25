import AccessStream.Toml.Key
import AccessStream.Toml.Tree

/-!
# Writing TOML

A text is written in the plainest of four styles that can hold it: between double quotes, if nothing
in it has to be escaped; else between single quotes, between triple double quotes or between triple
single quotes, if it can stand there as it is; and else with escapes. An array of two or more items
is spread over lines, a table inside a value stays on its line, and every header has a blank line
before it.
-/

namespace AccessStream.Toml

namespace Quoted

/-- The ways to write a text. -/
inductive Style where
  /-- Between double quotes. -/
  | basic
  /-- Between single quotes. -/
  | literal
  /-- Between triple double quotes. -/
  | multilineBasic
  /-- Between triple single quotes. -/
  | multilineLiteral
  deriving DecidableEq, Repr

/-- A control character that can stand in no string: all but the tab and the line feed. -/
def isControl (c : Char) : Bool := (c < ' ' && c ≠ '\t' && c ≠ '\n') || c = '\x7F'

/-- The length of the longest run of a character, if `run` of them have just been seen and `longest`
is the longest run before. -/
def longestRunFrom (quote : Char) (run longest : Nat) : List Char → Nat
  | [] => max run longest
  | c :: rest =>
    if c = quote then longestRunFrom quote (run + 1) longest rest
    else longestRunFrom quote 0 (max run longest) rest

/-- The length of the longest run of a character. -/
def longestRun (quote : Char) (text : List Char) : Nat := longestRunFrom quote 0 0 text

/-- The style in which a text is written. -/
def style (text : List Char) : Style :=
  let controls := text.any isControl
  let backslash := '\\' ∈ text
  let newLine := '\n' ∈ text
  let double := longestRun '"' text
  let single := longestRun '\'' text
  if !controls && !backslash && double = 0 && !newLine then .basic
  else if !controls && single = 0 && !newLine then .literal
  else if !controls && !backslash && double ≤ 2 then .multilineBasic
  else if !controls && single ≤ 2 then .multilineLiteral
  else if newLine then .multilineBasic
  else .basic

/-- The hexadecimal digit of a number below sixteen; letters are capital. -/
def hexChar (n : Nat) : Char := (Nat.digitChar n).toUpper

/-- The characters other than a quote that are written by a backslash and one more character, each
with that one. -/
def shortForms : List (Char × Char) :=
  [('\x08', 'b'), ('\t', 't'), ('\n', 'n'), ('\x0C', 'f'), ('\r', 'r'), ('\\', '\\')]

/-- The characters that write a character between double quotes, other than a quote. -/
def writeChar (c : Char) : List Char :=
  match shortForms.lookup c with
  | some mark => ['\\', mark]
  | none =>
    if isControl c then ['\\', 'u', '0', '0', hexChar (c.toNat / 16), hexChar (c.toNat % 16)]
    else [c]

/-- A text with escapes where they are needed. Of the quotes that follow each other so many may
stand as they are; `run` of them have just been written. Line feeds may stand as they are on several
lines. -/
def escaped (severalLines : Bool) (freeQuotes run : Nat) : List Char → List Char
  | [] => []
  | c :: rest =>
    if c = '"' then
      if run < freeQuotes then '"' :: escaped severalLines freeQuotes (run + 1) rest
      else '\\' :: '"' :: escaped severalLines freeQuotes 0 rest
    else if c = '\n' && severalLines then '\n' :: escaped severalLines freeQuotes 0 rest
    else writeChar c ++ escaped severalLines freeQuotes 0 rest

/-- A delimiter around some characters; a text of several lines starts on a line of its own. -/
def enclose (quote : Char) (text content : List Char) : List Char :=
  [quote, quote, quote] ++ (if '\n' ∈ text then ['\n'] else []) ++ content ++ [quote, quote, quote]

/-- A text in a style. -/
def writeAs (text : List Char) : Style → List Char
  | .basic => '"' :: escaped false 0 0 text ++ ['"']
  | .literal => '\'' :: text ++ ['\'']
  | .multilineBasic => enclose '"' text (escaped true 2 0 text)
  | .multilineLiteral => enclose '\'' text text

/-- A text between quotes. -/
def write (text : String) : List Char := writeAs text.toList (style text.toList)

end Quoted

namespace Word

/-- The text of a boolean. -/
def writeBoolean (value : Bool) : List Char :=
  if value then ['t', 'r', 'u', 'e'] else ['f', 'a', 'l', 's', 'e']

end Word

namespace Key

/-- The text of a name, which is bare if it can be. -/
def writeName (name : String) : List Char :=
  if !name.isEmpty && name.toList.all isBare then name.toList else Quoted.write name

/-- The text of a key. -/
def write (names : List String) : List Char := ['.'].intercalate (names.map writeName)

end Key

namespace Value

mutual

/-- The text of a value. -/
def write : Value → List Char
  | .text content => Quoted.write content
  | .integer value => Decimal.write value
  | .boolean value => Word.writeBoolean value
  | .float value => value.toText.toList
  | .datetime value => value.toText.toList
  | .unreadable => []
  | .array [] => ['[', ']']
  | .array [item] => '[' :: write item ++ [']']
  | .array items => '[' :: '\n' :: writeItems items
  | .table [] => ['{', '}']
  | .table entries => '{' :: ' ' :: writeEntries entries

/-- The items of an array, each on a line of its own, and the closing bracket. -/
def writeItems : List Value → List Char
  | [] => [']']
  | item :: items => ' ' :: ' ' :: ' ' :: ' ' :: write item ++ ',' :: '\n' :: writeItems items

/-- The entries of a table on one line, and the closing brace. -/
def writeEntries : List (String × Value) → List Char
  | [] => ['}']
  | [(name, value)] => Key.writeName name ++ ' ' :: '=' :: ' ' :: write value ++ [' ', '}']
  | (name, value) :: entries =>
    Key.writeName name ++ ' ' :: '=' :: ' ' :: write value ++ ',' :: ' ' :: writeEntries entries

end

theorem writeItems_cons (item : Value) (items : List Value) :
    writeItems (item :: items) =
      ' ' :: ' ' :: ' ' :: ' ' :: item.write ++ ',' :: '\n' :: writeItems items := by
  rw [writeItems]

theorem writeEntries_singleton (name : String) (value : Value) :
    writeEntries [(name, value)] =
      Key.writeName name ++ ' ' :: '=' :: ' ' :: value.write ++ [' ', '}'] := by
  rw [writeEntries]

theorem writeEntries_cons_cons (name : String) (value : Value) (next : String × Value)
    (entries : List (String × Value)) :
    writeEntries ((name, value) :: next :: entries) =
      Key.writeName name ++ ' ' :: '=' :: ' ' :: value.write ++
        ',' :: ' ' :: writeEntries (next :: entries) := by
  rw [writeEntries]
  simp

theorem write_items (first second : Value) (items : List Value) :
    (array (first :: second :: items)).write =
      '[' :: '\n' :: writeItems (first :: second :: items) := by
  rw [write] <;> simp

theorem write_entries (entry : String × Value) (entries : List (String × Value)) :
    (table (entry :: entries)).write = '{' :: ' ' :: writeEntries (entry :: entries) := by
  rw [write]
  simp

theorem write_array (items : List Value) : ∃ more, (array items).write = '[' :: more := by
  match items with
  | [] => exact ⟨_, by rw [write]⟩
  | [item] => exact ⟨_, by rw [write, List.cons_append]⟩
  | first :: second :: items => exact ⟨_, write_items first second items⟩

theorem write_table (entries : List (String × Value)) :
    ∃ more, (table entries).write = '{' :: more := by
  match entries with
  | [] => exact ⟨_, by rw [write]⟩
  | entry :: entries => exact ⟨_, write_entries entry entries⟩

end Value

/-- The line of a key and its value. -/
def writePair (pair : List String × Value) : List Char :=
  Key.write pair.1 ++ ' ' :: '=' :: ' ' :: pair.2.write ++ ['\n']

/-- A section with the blank line before it. -/
def Section.write (part : Section) : List Char :=
  let header := Key.write part.names
  let line := if part.isElement then '[' :: '[' :: header ++ [']', ']', '\n']
    else '[' :: header ++ [']', '\n']
  '\n' :: line ++ part.pairs.flatMap writePair

/-- A document of pairs before any header, and sections. -/
def write (pairs : List (List String × Value)) (sections : List Section) : String :=
  String.ofList (pairs.flatMap writePair ++ sections.flatMap Section.write)

end AccessStream.Toml

import AccessStream.Files.Tree
import AccessStream.Settings.Reading
import AccessStream.Toml.Reader

/-!
# Settings from one file

A single TOML file gives the settings, each value in its own type: a text is never read as a number
nor a number as a text. A relative path of a policy is meant from the directory of the file.
-/

namespace AccessStream

namespace Toml.Value

mutual

/-- Whether all numbers of a value can be read. -/
def isReadable : Value → Bool
  | .unreadable => false
  | .array items => areReadable items
  | .table entries => entriesAreReadable entries
  | .text _ => true
  | .integer _ => true
  | .float _ => true
  | .boolean _ => true
  | .datetime _ => true

/-- Whether all numbers of some values can be read. -/
def areReadable : List Value → Bool
  | [] => true
  | item :: items => isReadable item && areReadable items

/-- Whether all numbers of some entries can be read. -/
def entriesAreReadable : List (String × Value) → Bool
  | [] => true
  | (_, value) :: entries => isReadable value && entriesAreReadable entries

end

end Toml.Value

namespace Settings

/-- Why a file gives no settings. -/
inductive FileError where
  /-- The file cannot be read as text. -/
  | unreadable
  /-- The text is no settings document. -/
  | malformed
  /-- The settings cannot work. -/
  | flawed (flaw : Flaw)
  deriving DecidableEq, Repr

/-- Reads TOML values in their own types. Fields of unknown names must be readable. A date counts as
a record that has none of the fields. -/
def Reading.strict : Reading Toml.Value where
  fields? names
    | .table entries =>
      if entries.all fun entry => entry.1 ∈ names || entry.2.isReadable then some entries else none
    | .array items => some (names.zip items)
    | .datetime _ => some []
    | _ => none
  text?
    | .text content => some content
    | _ => none
  path?
    | .text content => some (some content)
    | _ => none
  word?
    | .text content => some content
    | .table [(name, .table [])] => some name
    | .table [(name, .array [])] => some name
    | _ => none
  natural?
    | .integer value => if 0 ≤ value && value < Nat.pow 2 64 then some value.toNat else none
    | _ => none

/-- The settings that a TOML text says. -/
def ofTomlText? (text : String) : Option Settings :=
  (Toml.read? text).bind Reading.strict.settings?

/-- Settings that can work, or what is wrong with them. -/
def checked (settings : Settings) : Except Flaw Settings :=
  match settings.flaw? with
  | some flaw => .error flaw
  | none => .ok settings

/-- The settings that the file under a path says. -/
def ofFile (path : String) (found : Found) : Except FileError Settings :=
  match found.text? with
  | none => .error .unreadable
  | some text =>
    match ofTomlText? text with
    | none => .error .malformed
    | some settings =>
      let settings := match Path.parent? path with
        | some directory => settings.resolve directory
        | none => settings
      settings.checked.mapError .flawed

/-- The settings of the file under a path. -/
def loadFile {m : Type → Type} [Monad m] (find : String → m Found) (path : String) :
    m (Except FileError Settings) := do
  return ofFile path (← find path)

end Settings

end AccessStream

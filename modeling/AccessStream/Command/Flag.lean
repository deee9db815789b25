import AccessStream.Policy.Format
import AccessStream.Settings.Environment
import AccessStream.Stream.Options

/-!
# Commands and their flags

The program has a command for each of its jobs, and commands under commands. Each takes flags of its
own, and some take a word.
-/

namespace AccessStream.Command

/-- A command, named by the way that leads to it. -/
inductive Verb where
  /-- The program itself. -/
  | program
  /-- Describe the program. -/
  | version
  /-- Decide a stream. -/
  | eval
  /-- Explain one record. -/
  | explain
  /-- The commands about policies. -/
  | policy
  /-- Print a policy. -/
  | showPolicy
  /-- Check a policy file. -/
  | checkPolicy
  deriving DecidableEq, Repr

/-- A flag. -/
inductive Flag where
  /-- The directory of the project. -/
  | configDirectory
  /-- The only file of settings. -/
  | configFile
  /-- The log filter. -/
  | logLevel
  /-- The policy file. -/
  | policy
  /-- The file that is read in the place of the standard input. -/
  | input
  /-- When lines are flushed. -/
  | flush
  /-- The number of bytes that a record may have. -/
  | maxRecordBytes
  /-- Print JSON. -/
  | json
  /-- The format that a policy is printed in. -/
  | format
  /-- Say how a command is used. -/
  | help
  /-- Say the version of the program. -/
  | version
  deriving DecidableEq, Repr

namespace Flag

/-- The name of a flag after two hyphens. -/
def name : Flag → String
  | configDirectory => "config-dir"
  | configFile => "config"
  | logLevel => "log-level"
  | policy => "policy"
  | input => "input"
  | flush => "flush"
  | maxRecordBytes => "max-record-bytes"
  | json => "json"
  | format => "format"
  | help => "help"
  | version => "version"

/-- The letter of a flag after one hyphen, if it has one. -/
def letter? : Flag → Option Char
  | policy => some 'p'
  | input => some 'i'
  | format => some 'f'
  | help => some 'h'
  | version => some 'V'
  | _ => none

/-- The number of bytes that a text says, after a plus sign if there is one. -/
def natural? (text : String) : Option Nat :=
  let digits := match text.toList with
    | '+' :: rest => rest
    | digits => digits
  (Decimal.natural? digits).filter (· < Nat.pow 2 64)

/-- What the value of a flag must look like; nothing if the flag takes no value. -/
def takes? : Flag → Option (String → Bool)
  | configDirectory => some (!·.isEmpty)
  | configFile => some (!·.isEmpty)
  | logLevel => some fun _ => true
  | policy => some (!·.isEmpty)
  | input => some (!·.isEmpty)
  | flush => some fun value => (FlushMode.ofName? value).isSome
  | maxRecordBytes => some fun value => (natural? value).isSome
  | json => none
  | format => some fun value => (PolicyFormat.ofName? value).isSome
  | help => none
  | version => none

end Flag

namespace Verb

/-- The words that lead to a command from the start of a command line. -/
def words : Verb → List String
  | program => ["attrgate"]
  | version => ["attrgate", "version"]
  | eval => ["attrgate", "eval"]
  | explain => ["attrgate", "explain"]
  | policy => ["attrgate", "policy"]
  | showPolicy => ["attrgate", "policy", "show"]
  | checkPolicy => ["attrgate", "policy", "check"]

/-- The commands right under a command, with their names. -/
def under : Verb → List (String × Verb)
  | program => [("version", version), ("eval", eval), ("explain", explain), ("policy", policy)]
  | policy => [("show", showPolicy), ("check", checkPolicy)]
  | _ => []

/-- The flags that only some commands take. -/
def ownFlags : Verb → List Flag
  | eval => [.policy, .input, .flush, .maxRecordBytes]
  | explain => [.policy, .json]
  | showPolicy => [.policy, .format]
  | _ => []

/-- The flags that a command takes. -/
def flags (verb : Verb) : List Flag :=
  verb.ownFlags ++ [.configDirectory, .configFile, .logLevel, .help, .version]

/-- The flag of a command with the given name. -/
def flag? (verb : Verb) (name : String) : Option Flag := verb.flags.find? (·.name == name)

/-- The flag of a command with the given letter. -/
def flagOfLetter? (verb : Verb) (letter : Char) : Option Flag :=
  verb.flags.find? (·.letter? == some letter)

/-- What the word that a command takes must look like; nothing if it takes none. -/
def takes? : Verb → Option (String → Bool)
  | explain => some fun _ => true
  | checkPolicy => some (!·.isEmpty)
  | _ => none

/-- The version of the program, as a command says it. -/
def versionText (verb : Verb) : String := "-".intercalate verb.words ++ " 0.3.0\n"

end Verb

end AccessStream.Command

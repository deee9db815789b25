import AccessStream.Command.Flag

/-!
# Arguments

A command line is read from left to right, and the first thing that is wrong or asks for help or the
version settles it. Flags of a command stand anywhere after its name; two hyphens end them, and what
follows are words. The value of a flag stands behind an equals sign, behind its letter, or in the
next argument, which then must not look like a flag.
-/

namespace AccessStream.Command

/-- What one argument looks like. -/
inductive Argument where
  /-- Two hyphens, which end the flags. -/
  | separator
  /-- A flag by its name, and the value behind an equals sign. -/
  | named (name : String) (value : Option String)
  /-- A flag by its letter, and what stands behind it. -/
  | lettered (letter : Char) (rest : List Char)
  /-- A word. -/
  | word (content : String)
  deriving DecidableEq, Repr

namespace Argument

/-- The name and the value that an equals sign divides. -/
def splitValue (text : List Char) : String × Option String :=
  match text.dropWhile (· ≠ '=') with
  | [] => (String.ofList text, none)
  | _ :: value => (String.ofList (text.takeWhile (· ≠ '=')), some (String.ofList value))

/-- What an argument looks like. -/
def ofText (text : String) : Argument :=
  match text.toList with
  | ['-', '-'] => separator
  | '-' :: '-' :: rest => named (splitValue rest).1 (splitValue rest).2
  | '-' :: letter :: rest => lettered letter rest
  | _ => word text

end Argument

/-- The value behind the letter of a flag, if the flag takes one and it stands there. -/
def Flag.attached? (flag : Flag) (rest : List Char) : Option String :=
  match flag.takes?, rest with
  | none, _ => none
  | some _, [] => none
  | some _, '=' :: value => some (String.ofList value)
  | some _, value => some (String.ofList value)

/-- What a command line comes to. -/
inductive Outcome (α : Type) where
  /-- It is well formed. -/
  | done (result : α)
  /-- It asks for the version of the program, as a command says it. -/
  | shows (text : String)
  /-- It asks how a command is used. -/
  | helps (verb : Verb)
  /-- It is not well formed. -/
  | refused
  deriving DecidableEq, Repr

namespace Outcome

variable {α β : Type}

/-- What follows from a well-formed command line. -/
def bind (outcome : Outcome α) (next : α → Outcome β) : Outcome β :=
  match outcome with
  | done result => next result
  | shows text => shows text
  | helps verb => helps verb
  | refused => refused

instance : Monad Outcome where
  pure := done
  bind := bind

/-- Goes on only if a condition holds. -/
def require (condition : Bool) : Outcome Unit := if condition then done () else refused

end Outcome

/-- What a command line says. -/
structure Line where
  /-- The innermost command. -/
  verb : Verb
  /-- The flags with their values, those of an inner command before those around it. -/
  flags : List (Flag × String)
  /-- The word of the innermost command, if there is one. -/
  word : Option String
  deriving DecidableEq, Repr

/-- What was given to one command so far. -/
structure Given where
  /-- The flags whose values were checked. -/
  flags : List (Flag × String) := []
  /-- The last flag whose value stands in an argument of its own. The value is missing until that
  argument is read, and it is checked when the next flag or word comes. -/
  pending : Option (Flag × Option String) := none
  /-- The word. -/
  word : Option String := none
  deriving DecidableEq, Repr

namespace Given

/-- Takes a flag that was not given before, if its value looks right. -/
def add (given : Given) (flag : Flag) (value : String) : Outcome Given := do
  Outcome.require (!given.flags.any (·.1 == flag))
  Outcome.require ((flag.takes?.map (· value)).getD true)
  return { given with flags := (flag, value) :: given.flags }

/-- Checks the flag that is pending. -/
def settle (given : Given) : Outcome Given :=
  match given.pending with
  | none => .done given
  | some (_, none) => .refused
  | some (flag, some value) => { given with pending := none }.add flag value

/-- Takes a flag, and the value that is attached to it if there is one. -/
def take (verb : Verb) (given : Given) (flag : Flag) (attached : Option String) :
    Outcome Given := do
  let given ← given.settle
  match flag.takes?, attached with
  | some _, some value => given.add flag value
  | some _, none => return { given with pending := some (flag, none) }
  | none, some _ => .refused
  | none, none =>
    match flag with
    | .version => .shows verb.versionText
    | .help => .helps verb
    | _ => given.add flag ""

/-- Takes a word, if the command takes one and has none. -/
def takeWord (verb : Verb) (given : Given) (word : String) : Outcome Given := do
  let given ← given.settle
  Outcome.require (given.word.isNone && (verb.takes?.map (· word)).getD false)
  return { given with word := some word }

/-- What was given, once the command line has ended. The two flags that say where the settings come
from exclude each other. -/
def close (given : Given) : Outcome Given := do
  let given ← given.settle
  let has (flag : Flag) : Bool := given.flags.any (·.1 == flag)
  Outcome.require (!(has .configFile && has .configDirectory))
  return given

/-- What a command line says that ends with a command. -/
def finish (verb : Verb) (given : Given) : Outcome Line := do
  let given ← given.close
  return ⟨verb, given.flags, given.word⟩

/-- What a command line says that goes on with a command under another one. -/
def enclose (given : Given) (line : Line) : Outcome Line := do
  let given ← given.close
  return { line with flags := line.flags ++ given.flags }

end Given

/-- How the command is used that some words lead to from another one. -/
def describe (verb : Verb) : List String → Outcome Line
  | [] => .helps verb
  | word :: words =>
    match verb.under.lookup word with
    | some inner => describe inner words
    | none =>
      if word = "help" && !verb.under.isEmpty && words.isEmpty then .helps verb else .refused

/-- Reads the arguments after the one that ends the flags of a command. -/
def readWords (verb : Verb) (given : Given) : List String → Outcome Line
  | [] => given.finish verb
  | argument :: arguments => do readWords verb (← given.takeWord verb argument) arguments

/-- Reads the arguments of a command. -/
def readArguments (verb : Verb) (given : Given) : List String → Outcome Line
  | [] => given.finish verb
  | argument :: arguments =>
    match Argument.ofText argument, given.pending with
    | .word value, some (flag, none) =>
      readArguments verb { given with pending := some (flag, some value) } arguments
    | .word word, _ =>
      match verb.under.lookup word with
      | some inner => do given.enclose (← readArguments inner {} arguments)
      | none =>
        if word = "help" && !verb.under.isEmpty then describe verb arguments
        else do readArguments verb (← given.takeWord verb word) arguments
    | .separator, _ => readWords verb given arguments
    | .named name value, _ =>
      match verb.flag? name with
      | some flag => do readArguments verb (← given.take verb flag value) arguments
      | none => .refused
    | .lettered letter rest, _ =>
      match verb.flagOfLetter? letter with
      | some flag => do
        readArguments verb (← given.take verb flag (flag.attached? rest)) arguments
      | none => .refused

/-- What the arguments after the name of the program come to. -/
def Line.ofArguments (arguments : List String) : Outcome Line := readArguments .program {} arguments

end AccessStream.Command

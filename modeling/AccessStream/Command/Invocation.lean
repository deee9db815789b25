import AccessStream.Command.Arguments

/-!
# Invocations

An invocation is what a well-formed command line asks for, with the values of its flags in their
types. Without a command, a stream is decided.
-/

namespace AccessStream.Command

/-- What is asked for about a stream, apart from the settings. -/
structure StreamRequest where
  /-- The path of the policy file. -/
  policy : Option String := none
  /-- The path of the file that is read in the place of the standard input. -/
  input : Option String := none
  /-- When lines are flushed. -/
  flush : Option FlushMode := none
  /-- The number of bytes that a record may have. -/
  maxRecordBytes : Option Nat := none
  deriving DecidableEq, Repr

/-- A job of the program. -/
inductive Job where
  /-- Describe the program. -/
  | version
  /-- Decide a stream. -/
  | eval (request : StreamRequest)
  /-- Explain one record under a policy, as JSON or as text. -/
  | explain (record : String) (policy : Option String) (json : Bool)
  /-- Print a policy in a format. -/
  | showPolicy (policy : Option String) (format : PolicyFormat)
  /-- Check the policy file under a path. -/
  | checkPolicy (path : String)
  deriving DecidableEq, Repr

/-- What a command line asks for. -/
structure Invocation where
  /-- The directory of the project. -/
  configDirectory : Option String := none
  /-- The only file of settings. -/
  configFile : Option String := none
  /-- The log filter. -/
  logLevel : Option String := none
  /-- The job. -/
  job : Job
  deriving DecidableEq, Repr

namespace Line

/-- The value of a flag; of several the one of the innermost command. -/
def value? (line : Line) (flag : Flag) : Option String := line.flags.lookup flag

/-- What a line asks for about a stream. -/
def streamRequest (line : Line) : StreamRequest where
  policy := line.value? .policy
  input := line.value? .input
  flush := (line.value? .flush).bind FlushMode.ofName?
  maxRecordBytes := (line.value? .maxRecordBytes).bind Flag.natural?

/-- The job that a line asks for, unless a word or a further command is missing. -/
def job? (line : Line) : Option Job :=
  match line.verb with
  | .program => some (.eval line.streamRequest)
  | .version => some .version
  | .eval => some (.eval line.streamRequest)
  | .explain => line.word.map fun record =>
      .explain record (line.value? .policy) (line.value? .json).isSome
  | .policy => none
  | .showPolicy =>
    let format := (line.value? .format).bind PolicyFormat.ofName?
    some (.showPolicy (line.value? .policy) (format.getD .toml))
  | .checkPolicy => line.word.map .checkPolicy

/-- What a line asks for. -/
def invocation? (line : Line) : Option Invocation :=
  line.job?.map fun job =>
    { configDirectory := line.value? .configDirectory
      configFile := line.value? .configFile
      logLevel := line.value? .logLevel
      job }

end Line

/-- What the arguments after the name of the program ask for. -/
def Invocation.ofArguments (arguments : List String) : Outcome Invocation :=
  (Line.ofArguments arguments).bind fun line =>
    match line.invocation? with
    | some invocation => .done invocation
    | none => .refused

end AccessStream.Command

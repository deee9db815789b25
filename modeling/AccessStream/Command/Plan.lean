import AccessStream.Command.Explanation
import AccessStream.Command.Invocation
import AccessStream.Command.Listing
import AccessStream.Log.Entry
import AccessStream.Policy.Load
import AccessStream.Settings.Layers

/-!
# Plans

Before the first record is read, everything that a job depends on is settled, in this order: the
settings, the log filter, the policy, and the limit of records. The first of them that fails is what
the program reports, and nothing is decided. What comes out is a plan: what to say in the log, and
what is left to do. How a file is found is a parameter, so that a plan can be made in any monad.
-/

namespace AccessStream.Command

/-- What the program is built for and from, as far as it shows: the platform, and the words of the
reader of command lines and of the JSON reader. -/
structure Build where
  /-- The architecture of the platform. -/
  architecture : String
  /-- The operating system of the platform. -/
  system : String
  /-- How each command is used, in the words of the reader of command lines. -/
  usage : Verb → String
  /-- What is wrong with each record that is no object of strings, in the words of the JSON
  reader. -/
  details : Bytes → String

/-- What the program depends on apart from its arguments and files. -/
structure Surroundings where
  /-- The variables of the environment. -/
  environment : Environment
  /-- The working directory. -/
  directory : String
  /-- The home directory of the account, if it has one. -/
  home : Option String
  /-- What the program is built for and from. -/
  build : Build

/-- Why the program fails. -/
inductive Failure where
  /-- The file of settings under a path gives none. -/
  | configFile (path : String) (cause : Settings.FileError)
  /-- The layers give no settings. -/
  | settings (cause : Settings.LayerError)
  /-- The log filter of the command line cannot be read. -/
  | logLevel (text : String)
  /-- The log filter of the settings cannot be read. -/
  | configuredLogLevel (text : String)
  /-- A log filter would have to be cut inside a character. -/
  | splitLogLevel (text : String)
  /-- The policy file under a path gives no policy. -/
  | policy (path : String) (cause : PolicyError)
  /-- The policy file that was to be checked gives no policy. -/
  | checkedPolicy (path : String) (cause : PolicyError)
  /-- No record may have any bytes. -/
  | zeroLimit
  /-- The file of records under a path cannot be opened. -/
  | input (path : String)
  /-- The stream stopped before its end. -/
  | stream (failure : StreamFailure)
  deriving DecidableEq, Repr

/-- The description of a failure, apart from its cause. The program does not describe that a log
filter cannot be cut, since it is a fault of its own. -/
def Failure.message? : Failure → Option String
  | configFile path _ => some s!"Failed to load config file {path}"
  | settings _ => some "Failed to load configuration"
  | logLevel text => some s!"Invalid log level '{text}'"
  | configuredLogLevel text => some s!"Invalid configured log level '{text}'"
  | splitLogLevel _ => none
  | policy path _ => some s!"Failed to load policy from {path}"
  | checkedPolicy path _ => some s!"Policy {path} is invalid"
  | zeroLimit => some "--max-record-bytes must be greater than zero"
  | input path => some s!"Failed to open input {path}"
  | stream failure => some failure.message

/-- The exit code for a failure. -/
def Failure.exitCode : Failure → Nat
  | splitLogLevel _ => 101
  | _ => 1

/-- The line that says why the program fails, if it describes the failure. -/
def Failure.line? (failure : Failure) : Option String := failure.message?.map ("Error: " ++ ·)

/-- What is left to do. -/
inductive Task where
  /-- Print a text. -/
  | print (text : String)
  /-- Decide the records of a file, or of the standard input. -/
  | decide (pipeline : Pipeline) (input : Option String)
  /-- Report a failure. -/
  | fail (failure : Failure)
  deriving DecidableEq, Repr

/-- What the program is going to do. -/
structure Plan where
  /-- Which entries are logged. -/
  filter : Log.Filter := ⟨[]⟩
  /-- The entries about the preparation. -/
  entries : List Log.Entry := []
  /-- What is left to do. -/
  task : Task
  deriving DecidableEq, Repr

/-- The description of the program. -/
def Build.description (build : Build) : String :=
  Verb.program.versionText ++ "\nStreaming attribute-based access control decisions.\n\n" ++
    "Build info:\n  Target:       " ++ build.architecture ++ "\n  OS:           " ++ build.system ++
    "\n"

/-- The log filter that a text says, or else a failure or another filter. -/
def readFilter (text : String) (otherwise : Except Failure Log.Filter) :
    Except Failure Log.Filter :=
  match Log.Filter.read text with
  | .ok filter => .ok filter
  | .error .malformed => otherwise
  | .error .splitCharacter => .error (.splitLogLevel text)

/-- The log filter: that of the command line, else that of the environment if it is well formed,
else that of the settings. -/
def logFilter (environment : Environment) (flag : Option String) (configured : String) :
    Except Failure Log.Filter :=
  match flag with
  | some text => readFilter text (.error (.logLevel text))
  | none =>
    let fallback := readFilter configured (.error (.configuredLogLevel configured))
    match environment.lookup "RUST_LOG" with
    | some text => readFilter text fallback
    | none => fallback

/-- The options of a stream: what was asked for, else what was set. -/
def StreamRequest.options (request : StreamRequest) (settings : Settings) : StreamOptions where
  flush := request.flush.getD settings.flush
  maxRecordBytes := request.maxRecordBytes.getD settings.maxRecordBytes

/-- The plan to decide a stream under a policy. -/
def StreamRequest.task (request : StreamRequest) (settings : Settings) (policy : Policy) : Task :=
  let options := request.options settings
  if options.maxRecordBytes = 0 then .fail .zeroLimit
  else .decide { evaluator := .ofPolicy policy, options } request.input

section Finding

variable {m : Type → Type} [Monad m] (find : String → m Found)

/-- The settings of an invocation: those of its only file, else those of all layers. -/
def Invocation.settings (surroundings : Surroundings) (invocation : Invocation) :
    m (Except Failure Settings) := do
  match invocation.configFile with
  | some path => return (← Settings.loadFile find path).mapError (.configFile path)
  | none =>
    let projectDirectory := invocation.configDirectory.getD surroundings.directory
    let options : Settings.LayerOptions := { projectDirectory, accountHome := surroundings.home }
    return (← Settings.load find surroundings.environment options).mapError .settings

/-- The policy in force: that of the command line, else that of the settings, else the standard one;
and what is to be said about it. -/
def policyInForce (flag configured : Option String) :
    m (Except Failure (Policy × Log.Entry)) := do
  match flag.or configured with
  | none => return .ok (.standard, .standardPolicy)
  | some path =>
    match ← Policy.load find path with
    | .ok policy => return .ok (policy, .ofPolicy path policy)
    | .error cause => return .error (.policy path cause)

/-- The plan for a task under the policy in force. -/
def planUnder (filter : Log.Filter) (flag configured : Option String) (task : Policy → Task) :
    m Plan := do
  match ← policyInForce find flag configured with
  | .error failure => return { filter, task := .fail failure }
  | .ok (policy, entry) => return { filter, entries := [entry], task := task policy }

/-- The plan for a job, once the settings and the log filter are known. -/
def Job.plan (build : Build) (settings : Settings) (filter : Log.Filter) : Job → m Plan
  | .version => return { filter, task := .print build.description }
  | .eval request =>
    planUnder find filter request.policy settings.policyPath (request.task settings)
  | .explain record policy json =>
    planUnder find filter policy settings.policyPath fun policy =>
      let explanation := Explanation.ofRecord (.ofPolicy policy) (Utf8.encode record)
      .print (explanation.printed build.details json)
  | .showPolicy policy format =>
    planUnder find filter policy settings.policyPath fun policy => .print (policy.shownText format)
  | .checkPolicy path => do
    match ← Policy.load find path with
    | .error cause => return { filter, task := .fail (.checkedPolicy path cause) }
    | .ok policy => return { filter, task := .print (policy.checkedText path) }

/-- The plan for an invocation. The description of the program depends on nothing. -/
def Invocation.plan (surroundings : Surroundings) (invocation : Invocation) : m Plan := do
  if invocation.job = .version then return { task := .print surroundings.build.description }
  match ← invocation.settings find surroundings with
  | .error failure => return { task := .fail failure }
  | .ok settings =>
    match logFilter surroundings.environment invocation.logLevel settings.logLevel with
    | .error failure => return { task := .fail failure }
    | .ok filter => invocation.job.plan find surroundings.build settings filter

end Finding

end AccessStream.Command

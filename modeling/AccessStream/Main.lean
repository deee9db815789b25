import AccessStream.Command.Report
import AccessStream.Stream.Feed

/-!
# The program

Carries out the plan of a command line on the files and streams of the system. The decision stream
goes to the standard output and everything else to the standard error.
-/

namespace AccessStream.Program

open Command

/-- What stands under a path; what can be opened but not read counts as a directory. -/
def findFile (path : String) : IO Found := do
  match ← (IO.FS.Handle.mk path .read).toBaseIO with
  | .error _ => return .nothing
  | .ok handle =>
    match ← handle.readBinToEnd.toBaseIO with
    | .ok content => return .file content.data.toList
    | .error _ => return .directory

/-- The variable that an entry of the environment says. -/
def variableOf? (text : String) : Option (String × String) :=
  match text.splitOn "=" with
  | name :: value :: rest => some (name, "=".intercalate (value :: rest))
  | _ => none

/-- The variables of the environment. -/
def readEnvironment : IO Environment := do
  match (← findFile "/proc/self/environ").text? with
  | some text => return (text.splitOn "\x00").filterMap variableOf?
  | none => return []

/-- The home directory of the account with a number, in a list of all accounts. -/
def homeOf? (accounts number : String) : Option String :=
  (accounts.splitOn "\n").findSome? fun account =>
    match account.splitOn ":" with
    | _ :: _ :: found :: _ :: _ :: home :: _ => if found = number then some home else none
    | _ => none

/-- The number of the account that a process belongs to, in what the system says of the process. -/
def accountOf? (status : String) : Option String :=
  (status.splitOn "\n").findSome? fun line =>
    match line.splitOn "\t" with
    | "Uid:" :: number :: _ => some number
    | _ => none

/-- The home directory of the account. -/
def readHome : IO (Option String) := do
  let status := (← findFile "/proc/self/status").text?
  let accounts := (← findFile "/etc/passwd").text?
  return do homeOf? (← accounts) (← accountOf? (← status))

/-- What this program is built for and from. It has readers of its own, and these are their words. -/
def build : Build where
  architecture := "x86_64"
  system := "linux"
  usage verb := "Usage: " ++ " ".intercalate verb.words ++ " [OPTIONS]\n"
  details record := match Json.readObject record with
    | .error .malformed => "the text is not JSON"
    | .error .truncated => "the text ends too early"
    | _ => "not an object of strings"

/-- Logs the entries that a filter lets through. -/
def logEntries (filter : Log.Filter) (entries : List Log.Entry) : IO Unit := do
  for entry in filter.select entries do
    IO.eprintln entry.line

/-- Says why the program fails. -/
def report (failure : Failure) : IO UInt32 := do
  for line in failure.line? do
    IO.eprintln line
  return failure.exitCode.toUInt32

/-- Writes what a pipeline has decided, and logs what it reports. -/
def emit (pipeline : Pipeline) (filter : Log.Filter) (output : IO.FS.Stream) (progress : Progress) :
    IO Progress := do
  logEntries filter (progress.events.toList.map (.ofEvent build.details))
  if !progress.sink.taken.isEmpty then
    output.write ⟨progress.sink.taken⟩
    if pipeline.options.flush = .everyRecord then output.flush
  return { stats := progress.stats, sink := {} }

/-- Writes the end of a run, and says how it came out. -/
def finish (filter : Log.Filter) (output : IO.FS.Stream) (run : StreamRun) : IO UInt32 := do
  output.write ⟨run.sink.taken⟩
  output.flush
  logEntries filter (streamEntries build.details run)
  match run.result with
  | .ok _ => return 0
  | .error failure => report (.stream failure)

/-- How many bytes are asked for at once. Where every line counts, nothing may be waited for beyond
the byte that ends a record. -/
def pieceSize : FlushMode → USize
  | .everyRecord => 1
  | .onExit => 65536

/-- Decides a stream piece by piece. -/
partial def decideStream (pipeline : Pipeline) (filter : Log.Filter) (input output : IO.FS.Stream)
    (draft : Draft) (progress : Progress) : IO UInt32 := do
  match ← (input.read (pieceSize pipeline.options.flush)).toBaseIO with
  | .error _ => finish filter output (pipeline.conclude true draft progress)
  | .ok piece =>
    if piece.isEmpty then finish filter output (pipeline.conclude false draft progress)
    else match pipeline.feed draft progress piece.data.toList with
      | .stop run => finish filter output run
      | .more draft progress =>
        decideStream pipeline filter input output draft (← emit pipeline filter output progress)

/-- The stream of the file under a path, or the standard input. -/
def openInput : Option String → IO (Except Failure IO.FS.Stream)
  | none => return .ok (← IO.getStdin)
  | some path => do
    match ← (IO.FS.Handle.mk path .read).toBaseIO with
    | .ok handle => return .ok (.ofHandle handle)
    | .error _ => return .error (.input path)

/-- Carries out a plan. -/
def execute (plan : Plan) : IO UInt32 := do
  logEntries plan.filter plan.entries
  let output ← IO.getStdout
  match plan.task with
  | .print text =>
    output.putStr text
    output.flush
    return 0
  | .fail failure => report failure
  | .decide pipeline path =>
    match ← openInput path with
    | .error failure => report failure
    | .ok input =>
      try decideStream pipeline plan.filter input output .empty { sink := {} }
      catch _ => report (.stream .write)

end AccessStream.Program

/-- Runs the program. -/
def main (arguments : List String) : IO UInt32 := do
  match AccessStream.Command.Invocation.ofArguments arguments with
  | .refused =>
    IO.eprint (AccessStream.Program.build.usage .program)
    return 2
  | .shows text =>
    IO.print text
    return 0
  | .helps verb =>
    IO.print (AccessStream.Program.build.usage verb)
    return 0
  | .done invocation =>
    let environment ← AccessStream.Program.readEnvironment
    let directory := (← IO.currentDir).toString
    let home ← AccessStream.Program.readHome
    AccessStream.Program.execute (← invocation.plan AccessStream.Program.findFile
      { environment, directory, home, build := AccessStream.Program.build })

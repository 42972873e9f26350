/-
A whole run: read every source in order into one roster, write the script,
report the warnings.

A run is written for any way of reading and writing files, so that it can
be carried out on real files and be reasoned about on a file system that is
a value.
-/
import PermScript.FileSystem
import PermScript.Log
import PermScript.Options
import PermScript.Report

namespace PermScript

open PermScript.Config (Dialect FileError LoadError)

/-- Where a configuration comes from. -/
inductive Source
  | file (path : String)
  | stdin
  deriving DecidableEq, Repr

namespace Source

/-- The name of a source in messages. -/
def label : Source → String
  | file path => path
  | stdin => "<stdin>"

/-- The sources that paths stand for: files, or the standard input if there
is none. -/
def ofPaths (paths : List String) : List Source :=
  if paths.isEmpty then [.stdin] else paths.map .file

end Source

/-- A way of reading and writing files. -/
structure Disk (m : Type → Type) where
  read : Source → m (Except FileError String)
  write : String → String → m (Except FileError Unit)

/-- The files of a file system, with the content of the standard input. -/
def FileSystem.disk (stdin : Content) : Disk (StateM FileSystem) where
  read
    | .file path => do return (← get).read path
    | .stdin => return stdin.read
  write path text := do
    match (← get).write path text with
    | .ok fs =>
      modify fun _ => fs
      return .ok ()
    | .error e => return .error e

/-- Why a run failed. -/
inductive Failure
  | load (source : Source) (cause : LoadError)
  | write (path : String) (cause : FileError)

/-- The messages of a failure, the outermost first, each followed by what
lies behind it. -/
def Failure.chain : Failure → List String
  | load source cause =>
    ["loading " ++ source.label, "Configuration error: " ++ cause.message, cause.message] ++
      cause.cause?.toList
  | write path cause =>
    ["Failed to write commands to " ++ path ++ ": " ++ cause.message, cause.message]

namespace Conversion

variable {m : Type → Type} [Monad m]

/-- Reads one source into a roster. -/
def loadSource (disk : Disk m) (dialect : Dialect) (source : Source) (r : Roster) :
    m (Except LoadError Unit × Roster) := do
  match ← disk.read source with
  | .error e => return (.error (.unreadable source.label e), r)
  | .ok text => return Config.loadText dialect source.label text r

/-- Reads sources into a roster up to the first that fails. -/
def loadSources (disk : Disk m) (dialect : Dialect) : List Source → Roster → Log →
    m (Except Failure Roster × Log)
  | [], r, log => return (.ok r, log)
  | source :: sources, r, log => do
    let log := log.say .debug ("reading " ++ source.label ++ " as " ++ dialect.name)
    match ← loadSource disk dialect source r with
    | (.error e, _) => return (.error (.load source e), log)
    | (.ok (), r) => loadSources disk dialect sources r log

/-- What the log says once everything is loaded. -/
def loadedText (r : Roster) (sources : Nat) : String :=
  "loaded " ++ toString r.groups.size ++ " groups, " ++ toString r.players.size ++
    " players from " ++ toString sources ++ " source(s)"

/-- What the log says once the script is written. -/
def writtenText (tally : Tally) (path : String) : String :=
  "wrote " ++ toString tally.lines ++ " lines (" ++ toString tally.players ++ " players, " ++
    toString tally.groups ++ " groups) to " ++ path

/-- The end of the log of a run that wrote a report. -/
def closeLog (report : Report) (path : String) (log : Log) : Log :=
  let log := report.warnings.foldl Log.warning log
  let log := log.say .info (writtenText report.tally path)
  if 0 < log.warningCount then
    log.say .warn (toString log.warningCount ++
      " warning(s); review them before running the commands")
  else log

/-- Carries out a run. Nothing is written unless every source could be
loaded. -/
def run (disk : Disk m) (options : Options) (log : Log) : m (Except Failure Unit × Log) := do
  let sources := Source.ofPaths options.inputs
  match ← loadSources disk options.dialect sources .empty (log.stage "Loading configuration") with
  | (.error e, log) => return (.error e, log)
  | (.ok roster, log) =>
    let log := (log.say .info (loadedText roster sources.length)).stage "Writing commands"
    let report := roster.report
    match ← disk.write options.output report.script.text with
    | .error e => return (.error (.write options.output e), log)
    | .ok () => return (.ok (), closeLog report options.output log)

end Conversion

end PermScript

/-
The program as a whole: from the arguments to an exit status and the texts
on the two output streams.
-/
import PermScript.Conversion

namespace PermScript

/-- The name of the program. -/
def programName : String := "perms-migrate"

/-- Its version. -/
def programVersion : String := "0.1.0"

/-- How to call it. -/
def usage : String :=
  "Usage: " ++ programName ++ " [OPTIONS] <OUTPUT> [INPUTS]...\n\n" ++
  "  -d, --dialect <pex|bperms>  Layout of the input configuration [default: pex]\n" ++
  "  -v, --verbose               Enable verbose output\n" ++
  "  -h, --help                  Print help\n" ++
  "  -V, --version               Print version\n"

/-- How an execution of the program ended. -/
structure Execution where
  exit : Nat
  stdout : String
  stderr : String
  deriving DecidableEq, Repr

/-- The causes of a failure as numbered lines, or one line without number. -/
def causeLines : List String → String
  | [] => ""
  | [cause] => "\nCaused by:\n    " ++ cause ++ "\n"
  | causes =>
    "\nCaused by:\n" ++ String.join (causes.zipIdx.map fun c =>
      "    " ++ toString c.2 ++ ": " ++ c.1 ++ "\n")

/-- The report of a failure: its outermost message, then its causes. -/
def Failure.report (f : Failure) : String :=
  "Error: " ++ f.chain.headD "" ++ "\n" ++ causeLines f.chain.tail

/-- How a command line that asks for no run ends. -/
def UsageError.execution (e : UsageError) : Execution :=
  match e with
  | .helpRequested => ⟨e.exit, usage, ""⟩
  | .versionRequested => ⟨e.exit, programName ++ " " ++ programVersion ++ "\n", ""⟩
  | _ => ⟨e.exit, "", usage⟩

/-- Executes the program. `level` is the level of the log that the
environment asks for, which goes before that of the options. -/
def execute {m : Type → Type} [Monad m] (disk : Disk m) (level : Option String)
    (args : List String) : m Execution := do
  match Options.ofArguments args with
  | .error e => return e.execution
  | .ok options =>
    let filter := (level.bind Filter.ofText?).getD (.default options.verbose)
    match ← Conversion.run disk options {} with
    | (.ok (), log) => return ⟨0, "", log.text filter false⟩
    | (.error e, log) => return ⟨1, "", log.text filter false ++ e.report⟩

end PermScript

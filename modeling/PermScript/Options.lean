/-
The command line: where to write, what to read, in which dialect and how
much to say.

Arguments are taken from left to right. The value of an option and a
positional argument are checked when the next argument has turned out to
be known, so that of two mistakes an unknown argument is reported first.
-/
import PermScript.Config.Dialect

namespace PermScript

open PermScript.Config (Dialect)

/-- What a command line asks for. -/
structure Options where
  output : String
  inputs : List String
  dialect : Dialect
  verbose : Bool
  deriving DecidableEq, Repr

/-- Why a command line asks for no run. -/
inductive UsageError
  | missingOutput
  | invalidValue
  | unknownArgument
  /-- An option that may be given once is given again. -/
  | repeatedOption
  /-- A value for an option that takes none. -/
  | unexpectedValue
  | helpRequested
  | versionRequested
  deriving DecidableEq, Repr

/-- The exit status for it: asking for help or the version is no mistake. -/
def UsageError.exit : UsageError → Nat
  | helpRequested | versionRequested => 0
  | _ => 2

namespace Options

/-- An argument that is taken but not checked yet. -/
inductive Pending
  /-- The dialect, whose value may still be to come. -/
  | dialect (value : Option String)
  | output (path : String)
  | inputs (paths : List String)
  deriving DecidableEq, Repr

/-- The options so far. -/
structure Draft where
  output : Option String := none
  inputs : List String := []
  dialect : Option Dialect := none
  verbose : Bool := false
  pending : Option Pending := none

/-- Reading arguments fails with a usage error. -/
abbrev Reading := Except UsageError

namespace Draft

/-- Sets the dialect, once. -/
def setDialect (d : Draft) (value : String) : Reading Draft :=
  if d.dialect.isSome then .error .repeatedOption
  else match Dialect.ofName? value with
    | some dialect => .ok { d with dialect := some dialect }
    | none => .error .invalidValue

/-- Checks what is pending. A path may not be empty. -/
def settle (d : Draft) : Reading Draft :=
  let clear := { d with pending := none }
  match d.pending with
  | none => .ok d
  | some (.dialect none) => .error .invalidValue
  | some (.dialect (some value)) => clear.setDialect value
  | some (.output path) =>
    if path.isEmpty then .error .invalidValue else .ok { clear with output := some path }
  | some (.inputs paths) =>
    if paths.any (·.isEmpty) then .error .invalidValue
    else .ok { clear with inputs := d.inputs ++ paths }

/-- Turns verbosity on, once. -/
def setVerbose (d : Draft) : Reading Draft := do
  let d ← d.settle
  if d.verbose then .error .repeatedOption else return { d with verbose := true }

/-- Asks for something other than a run. -/
def leave (d : Draft) (request : UsageError) : Reading Draft := do
  let _ ← d.settle
  .error request

/-- Takes an option for the dialect, with its value if that is attached. -/
def takeDialect (d : Draft) (attached : Option String) : Reading Draft := do
  let d ← d.settle
  match attached with
  | some value => d.setDialect value
  | none => return { d with pending := some (.dialect none) }

/-- Takes a positional argument: the output first, then inputs. -/
def takePositional (d : Draft) (arg : String) : Reading Draft :=
  match d.pending with
  | some (.inputs paths) => .ok { d with pending := some (.inputs (paths ++ [arg])) }
  | _ => do
    let d ← d.settle
    if d.output.isNone then return { d with pending := some (.output arg) }
    else return { d with pending := some (.inputs [arg]) }

/-- Takes the letters after a single dash. The letter for the dialect takes
the rest as its value, without the equals sign it may begin with. -/
def takeLetters (d : Draft) : List Char → Reading Draft
  | [] => .ok d
  | 'd' :: [] => d.takeDialect none
  | 'd' :: '=' :: value => d.takeDialect (some (String.ofList value))
  | 'd' :: value => d.takeDialect (some (String.ofList value))
  | 'v' :: rest => do (← d.setVerbose).takeLetters rest
  | 'h' :: _ => d.leave .helpRequested
  | 'V' :: _ => d.leave .versionRequested
  | _ => .error .unknownArgument

/-- Takes an option with its name in full and the value attached to it. -/
def takeNamed (d : Draft) (name : String) (attached : Option String) : Reading Draft :=
  if name == "dialect" then d.takeDialect attached
  else if ["verbose", "help", "version"].contains name then
    if attached.isSome then .error .unexpectedValue
    else if name == "verbose" then d.setVerbose
    else d.leave (if name == "help" then .helpRequested else .versionRequested)
  else .error .unknownArgument

/-- Splits the text after two dashes at its first equals sign. -/
def splitNamed (cs : List Char) : String × Option String :=
  let name := String.ofList (cs.takeWhile (· != '='))
  match cs.dropWhile (· != '=') with
  | _ :: value => (name, some (String.ofList value))
  | [] => (name, none)

/-- Takes one argument before the mark that ends the options. A word that
follows an option is its value; a dash alone is a word. -/
def take (d : Draft) (arg : String) : Reading Draft :=
  match arg.toList with
  | '-' :: '-' :: rest =>
    let (name, attached) := splitNamed rest
    d.takeNamed name attached
  | '-' :: c :: cs => d.takeLetters (c :: cs)
  | _ =>
    match d.pending with
    | some (.dialect none) => .ok { d with pending := some (.dialect (some arg)) }
    | _ => d.takePositional arg

/-- Takes all arguments; after two dashes alone they are all positional. -/
def takeAll (positional : Bool) (d : Draft) : List String → Reading Draft
  | [] => d.settle
  | arg :: args =>
    if positional then do takeAll true (← d.takePositional arg) args
    else if arg == "--" then takeAll true d args
    else do takeAll false (← d.take arg) args

end Draft

/-- Reads a command line, without the name of the program. -/
def ofArguments (args : List String) : Reading Options := do
  let d ← Draft.takeAll false {} args
  match d.output with
  | some output => return ⟨output, d.inputs, d.dialect.getD .pex, d.verbose⟩
  | none => .error .missingOutput

end Options

end PermScript

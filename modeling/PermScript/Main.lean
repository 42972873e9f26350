/-
The program on real files.
-/
import PermScript.Program

namespace PermScript

open PermScript.Config (FileError)

/-- The environment variable that sets the level of the log. -/
def levelVariable : String := "RUST_LOG"

/-- The system's words for a failed access, with its number. -/
def systemMessage (details : String) (code : UInt32) : String :=
  details ++ " (os error " ++ toString code ++ ")"

/-- The cause of a failed access. -/
def fileError : IO.Error → FileError
  | .noFileOrDirectory .. => .notFound
  | .inappropriateType _ code _ => if code = 21 then .isDirectory else .notDirectory
  | .resourceExhausted _ code details =>
    if code = 28 then .noSpace else .other (systemMessage details code)
  | .permissionDenied _ code details => .other (systemMessage details code)
  | e => .other (toString e)

/-- Runs an access to a file, keeping its failure as a value. -/
def access {α : Type} (action : IO α) : IO (Except FileError α) := do
  match ← action.toBaseIO with
  | .ok a => return .ok a
  | .error e => return .error (fileError e)

/-- The text of bytes. -/
def textOf (bytes : ByteArray) : Except FileError String :=
  match String.fromUTF8? bytes with
  | some s => .ok s
  | none => .error .notText

/-- The files of the system. -/
def systemDisk : Disk IO where
  read source := do
    let bytes ← access (match source with
      | .file path => IO.FS.readBinFile path
      | .stdin => do (← IO.getStdin).readBinToEnd)
    return bytes.bind textOf
  write path text := access (IO.FS.withFile path .write fun file => do
    file.putStr text
    file.flush)

end PermScript

open PermScript in
/-- Executes the program with the arguments of its command line. -/
def main (args : List String) : IO UInt32 := do
  let execution ← execute systemDisk (← IO.getEnv levelVariable) args
  IO.print execution.stdout
  IO.eprint execution.stderr
  return UInt32.ofNat execution.exit

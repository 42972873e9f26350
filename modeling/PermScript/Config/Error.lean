/-
What can go wrong while a configuration is read, by cause, with the words
for each.
-/
import PermScript.Yaml.Description

namespace PermScript.Config

open PermScript.Yaml

/-- Why a file could not be read or written. -/
inductive FileError
  | notFound
  | notDirectory
  | isDirectory
  | noSpace
  | notText
  | nullInPath
  /-- Any other reason, in the system's words. -/
  | other (message : String)
  deriving DecidableEq, Repr

/-- The words for a file error. -/
def FileError.message : FileError → String
  | notFound => "No such file or directory (os error 2)"
  | notDirectory => "Not a directory (os error 20)"
  | isDirectory => "Is a directory (os error 21)"
  | noSpace => "No space left on device (os error 28)"
  | notText => "stream did not contain valid UTF-8"
  | nullInPath => "file name contained an unexpected NUL byte"
  | other message => message

/-- What a part of a body should have been. -/
inductive Expected
  | body (name : String)
  | fieldName
  | string
  | sequence
  | mapping
  deriving DecidableEq, Repr

/-- The words for an expectation. -/
def Expected.text : Expected → String
  | body name => "struct " ++ name
  | fieldName => "field identifier"
  | string => "a string"
  | sequence => "a sequence"
  | mapping => "a YAML mapping"

/-- Why a body does not have the shape it should have. -/
inductive ShapeError
  | mismatch (found : Value) (expected : Expected)
  | duplicateField (name : String)
  /-- Neither a string nor a list of strings. -/
  | notStrings
  /-- A tag inside a string or a list of strings. -/
  | taggedStrings
  deriving Inhabited

/-- The words for a wrong shape. -/
def ShapeError.message : ShapeError → String
  | mismatch found expected =>
    "invalid type: " ++ found.kindText ++ ", expected " ++ expected.text
  | duplicateField name => "duplicate field \x60" ++ name ++ "\x60"
  | notStrings => "data did not match any variant of untagged enum OneOrMany"
  | taggedStrings => "untagged and internally tagged enums do not support enum input"

/-- Why a configuration could not be loaded. -/
inductive LoadError
  /-- The source could not be read. -/
  | unreadable (label : String) (cause : FileError)
  /-- The text is not a document. Why it is none is not kept: the words of the
  parser, which would follow the label in the message, are left out. -/
  | malformed (label : String)
  /-- A key of a section names no entity. -/
  | invalidKey (label heading : String) (key : Value)
  /-- The body of an entity has the wrong shape. -/
  | invalidEntry (label heading entity : String) (cause : ShapeError)
  deriving Inhabited

namespace LoadError

/-- The words for a load error. -/
def message : LoadError → String
  | unreadable label cause => "IO error reading " ++ label ++ ": " ++ cause.message
  | malformed label => "Invalid YAML in " ++ label
  | invalidKey label heading key =>
    "Unsupported key under '" ++ heading ++ "' in " ++ label ++ ": " ++ key.fullText
  | invalidEntry label heading entity cause =>
    "Invalid entry '" ++ entity ++ "' under '" ++ heading ++ "' in " ++ label ++ ": " ++
      cause.message

/-- The words for what lies behind a load error, if that is told apart. -/
def cause? : LoadError → Option String
  | unreadable _ cause => some cause.message
  | malformed _ => none
  | invalidKey .. => none
  | invalidEntry _ _ _ cause => some cause.message

end LoadError

end PermScript.Config

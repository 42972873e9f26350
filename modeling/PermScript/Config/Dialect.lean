/-
The layouts of configurations, and loading a document in either.
-/
import PermScript.Config.BPerms
import PermScript.Config.Pex
import PermScript.Yaml.Document

namespace PermScript.Config

/-- The layout of a configuration. -/
inductive Dialect
  | pex
  | bperms
  deriving DecidableEq, Repr, Inhabited

/-- The name of a dialect. -/
def Dialect.name : Dialect → String
  | .pex => "pex"
  | .bperms => "bperms"

/-- The dialect of that name. -/
def Dialect.ofName? (name : String) : Option Dialect :=
  [Dialect.pex, .bperms].find? (·.name == name)

/-- Takes a document that is read already into a roster. -/
def loadValue (dialect : Dialect) (label : String) (doc : Yaml.Value) (r : Roster) :
    Except LoadError Unit × Roster :=
  match dialect with
  | .pex => Pex.load label doc r
  | .bperms => BPerms.load label doc r

/-- Takes the text of a document into a roster. -/
def loadText (dialect : Dialect) (label text : String) (r : Roster) :
    Except LoadError Unit × Roster :=
  match Yaml.parse text with
  | none => (.error (.malformed label), r)
  | some doc => loadValue dialect label doc r

end PermScript.Config

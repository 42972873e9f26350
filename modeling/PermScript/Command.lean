/-
The lines of a script: headings, which are comments, and the commands that
rebuild players and groups.
-/
import PermScript.Warning

namespace PermScript

/-- The pieces of chat decoration. -/
inductive Decoration
  | before
  | after
  deriving DecidableEq, Repr

/-- The word for a decoration in commands. -/
def Decoration.keyword : Decoration → String
  | .before => "prefix"
  | .after => "suffix"

/-- One line of a script. -/
inductive Line
  | heading (side : Side) (name : String)
  | create (group : String)
  | set (side : Side) (name key : String) (value : Bool)
  | setParent (group parent : String)
  | decorate (side : Side) (name : String) (decoration : Decoration) (text : String)
  | add (group member : String)
  deriving DecidableEq, Repr

/-- What every command about an entity begins with. -/
def commandHead (side : Side) (name : String) : String :=
  "permissions " ++ side.keyword ++ " " ++ name

/-- A line as text, without its end. -/
def Line.text : Line → String
  | heading side name => "# " ++ side.title ++ " " ++ name
  | create group => commandHead .group group ++ " create"
  | set side name key value =>
    commandHead side name ++ " set " ++ key ++ " " ++ if value then "true" else "false"
  | setParent group parent => commandHead .group group ++ " setparent " ++ parent
  | decorate side name decoration text =>
    commandHead side name ++ " metadata set " ++ decoration.keyword ++ " " ++ text
  | add group member => commandHead .group group ++ " add " ++ member

end PermScript

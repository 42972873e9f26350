/-
Warnings: what a conversion loses or what its result may come to conflict
with. A warning is its cause; the words are in one place.
-/
namespace PermScript

/-- The two kinds of entity that commands are about. -/
inductive Side
  | player
  | group
  deriving DecidableEq, Repr

/-- The word for a side in commands and sentences. -/
def Side.keyword : Side → String
  | .player => "player"
  | .group => "group"

/-- The word for a side in headings. -/
def Side.title : Side → String
  | .player => "Player"
  | .group => "Group"

/-- The kinds of warning. -/
inductive WarningKind
  | multipleParents
  | missingGroup
  | reservedPermission
  | unreachableGroup
  deriving DecidableEq, Repr

/-- The short name of a kind. -/
def WarningKind.tag : WarningKind → String
  | .multipleParents => "multiple-parents"
  | .missingGroup => "missing-group"
  | .reservedPermission => "reserved-permission"
  | .unreachableGroup => "unreachable-group"

/-- A warning. -/
inductive Warning
  /-- The group declares several parents; only the first is kept. -/
  | multipleParents (group : String) (parents : List String)
  /-- The player belongs to a group that is not defined. -/
  | missingGroup (player group : String)
  /-- The permission is in the namespace that the target fills by itself. -/
  | reservedPermission (side : Side) (name key : String)
  /-- The group, placed under that parent, was never reached and is left out. -/
  | unreachableGroup (group : String) (parent : Option String)
  /-- A warning in words of its own. -/
  | note (kind : WarningKind) (entity detail : String)
  deriving DecidableEq, Repr

namespace Warning

/-- The kind of a warning. -/
def kind : Warning → WarningKind
  | multipleParents .. => .multipleParents
  | missingGroup .. => .missingGroup
  | reservedPermission .. => .reservedPermission
  | unreachableGroup .. => .unreachableGroup
  | note kind .. => kind

/-- The group or player that gives rise to a warning. -/
def entity : Warning → String
  | multipleParents group _ => group
  | missingGroup player _ => player
  | reservedPermission _ name _ => name
  | unreachableGroup group _ => group
  | note _ entity _ => entity

/-- The explanation. -/
def detail : Warning → String
  | multipleParents group parents =>
    "group " ++ group ++ " has more than one parent (" ++ ", ".intercalate parents ++
      "); using only " ++ parents.headD ""
  | missingGroup player group =>
    player ++ " is a member of " ++ group ++ ", but the group does not exist"
  | reservedPermission side name key =>
    side.keyword ++ " " ++ name ++ " has a " ++ key ++
      " permission; these are set automatically, consider deleting it"
  | unreachableGroup group (some parent) =>
    "group " ++ group ++ " is not reachable from a root group through its parent " ++ parent ++
      " (undefined parent or inheritance cycle); it was not emitted"
  | unreachableGroup group none => "group " ++ group ++ " was not emitted"
  | note _ _ detail => detail

/-- A warning as one text: its tag and the explanation. -/
def text (w : Warning) : String := "[" ++ w.kind.tag ++ "] " ++ w.detail

end Warning

end PermScript

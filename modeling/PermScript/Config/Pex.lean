/-
Configurations with groups and users: `permissions` at the top level of an
entity and under each of its `worlds`, parents in `inheritance`, memberships
in `group`. A dash denies and alternatives are expanded.

Loading changes the roster as it goes, so an error leaves behind what came
before it: all entries of a section are read first, but the worlds of an
entity only when its turn comes.
-/
import PermScript.Config.Body
import PermScript.Membership
import PermScript.Permission.Statement

namespace PermScript.Config.Pex

open PermScript.Yaml

/-- A dash denies, and alternatives are expanded. -/
def rules : PatternRules := ⟨'-', true⟩

/-! ## Bodies -/

/-- The statements of one world. -/
structure WorldBody where
  permissions : Option (List String) := none
  deriving DecidableEq, Inhabited

/-- The fields of a world. -/
def worldField : FieldReader WorldBody
  | "permissions" => some fun v b => do
    return { b with permissions := ← optional readOneOrMany v }
  | _ => none

/-- Reads a world. -/
def readWorld : Value → Except ShapeError WorldBody := readBody "WorldDef" worldField {}

/-- The body of a group or a user. -/
structure EntityBody where
  permissions : Option (List String) := none
  worlds : Option (List (Value × Value)) := none
  /-- The parents of a group, the memberships of a user. -/
  groups : Option (List String) := none
  chatPrefix : Option String := none
  chatSuffix : Option String := none
  deriving Inhabited

/-- The fields of a group or a user, where `groupsField` names its groups. -/
def entityField (groupsField : String) : FieldReader EntityBody := fun name =>
  if name == "permissions" then some fun v b => do
    return { b with permissions := ← optional readOneOrMany v }
  else if name == "worlds" then some fun v b => do
    return { b with worlds := ← optional readMapping v }
  else if name == groupsField then some fun v b => do
    return { b with groups := ← optional readOneOrMany v }
  else if name == "prefix" then some fun v b => do
    return { b with chatPrefix := ← optional readString v }
  else if name == "suffix" then some fun v b => do
    return { b with chatSuffix := ← optional readString v }
  else none

/-- Reads a group, whose parents are in `inheritance`. -/
def readGroup : Value → Except ShapeError EntityBody :=
  readBody "GroupDef" (entityField "inheritance") {}

/-- Reads a user, whose memberships are in `group`. -/
def readUser : Value → Except ShapeError EntityBody :=
  readBody "UserDef" (entityField "group") {}

namespace EntityBody

/-- The groups that the body names. -/
def groupNames (b : EntityBody) : List String := b.groups.getD []

/-- The statements under each world. -/
def worldStatements (label : String) (b : EntityBody) :
    Except LoadError (List (String × List String)) :=
  (readEntries label "worlds" readWorld {} (b.worlds.getD [])).map fun worlds =>
    worlds.map fun w => (w.1, w.2.permissions.getD [])

/-- All permissions of the body. -/
def permissionSet (label : String) (b : EntityBody) : Except LoadError PermissionSet :=
  (b.worldStatements label).map (PermissionSet.ofScopes rules (b.permissions.getD []))

/-- The group that the body declares, without members. -/
def group (b : EntityBody) (permissions : PermissionSet) : Group where
  permissions
  parents := b.groupNames
  chatPrefix := nonEmpty b.chatPrefix
  chatSuffix := nonEmpty b.chatSuffix

/-- The player that the body declares. -/
def player (b : EntityBody) (permissions : PermissionSet) : Player where
  permissions
  chatPrefix := nonEmpty b.chatPrefix
  chatSuffix := nonEmpty b.chatSuffix

end EntityBody

/-! ## Loading -/

/-- Takes the groups of a section into a roster, up to the first whose
worlds are wrong. -/
def addGroups (label : String) : List (String × EntityBody) → Roster →
    Except LoadError Unit × Roster
  | [], r => (.ok (), r)
  | (name, body) :: rest, r =>
    match body.permissionSet label with
    | .error e => (.error e, r)
    | .ok permissions =>
      addGroups label rest { r with groups := r.groups.insert name (body.group permissions) }

/-- Joins a user to the groups it names, noting those that are missing. -/
def joinGroups (name : String) (body : EntityBody) (r : Roster) : Roster :=
  let (groups, warnings) := link name body.groupNames r.groups
  { r with groups, warnings := r.warnings ++ warnings }

/-- Takes the users of a section into a roster, up to the first whose
worlds are wrong; that one has joined its groups already. -/
def addUsers (label : String) : List (String × EntityBody) → Roster →
    Except LoadError Unit × Roster
  | [], r => (.ok (), r)
  | (name, body) :: rest, r =>
    let r := joinGroups name body r
    match body.permissionSet label with
    | .error e => (.error e, r)
    | .ok permissions =>
      addUsers label rest { r with players := r.players.insert name (body.player permissions) }

/-- Reads a section, if the document has it, and takes its entries in. -/
def loadSection (label heading : String) (doc : Value)
    (read : Value → Except ShapeError EntityBody)
    (add : List (String × EntityBody) → Roster → Except LoadError Unit × Roster) (r : Roster) :
    Except LoadError Unit × Roster :=
  match section? doc heading with
  | none => (.ok (), r)
  | some mapping =>
    match readEntries label heading read {} mapping with
    | .error e => (.error e, r)
    | .ok entries => add entries r

/-- Takes a document into a roster: its groups, then its users, so that
memberships find the groups of their own document. -/
def load (label : String) (doc : Value) (r : Roster) : Except LoadError Unit × Roster :=
  match loadSection label "groups" doc readGroup (addGroups label) r with
  | (.error e, r) => (.error e, r)
  | (.ok (), r) => loadSection label "users" doc readUser (addUsers label) r

end PermScript.Config.Pex

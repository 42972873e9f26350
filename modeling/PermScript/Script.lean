/-
Scripts: a block of lines for each player that there is something to write
about, then one for each group in a given order. The counts and warnings of
a script are those of its blocks; its tally has them together.
-/
import PermScript.Command
import PermScript.Entity

namespace PermScript

/-- The lines of one entity. -/
inductive Block
  | player (name : String) (player : Player)
  | group (name : String) (group : Group)
  deriving DecidableEq

namespace Block

/-- The kind of entity. -/
def side : Block → Side
  | player .. => .player
  | group .. => .group

/-- The entity's name. -/
def name : Block → String
  | player name _ => name
  | group name _ => name

/-- The entity's permissions. -/
def permissions : Block → PermissionSet
  | player _ p => p.permissions
  | group _ g => g.permissions

/-- The lines that set permissions, in the order in which they are listed. -/
def settings (b : Block) : List Line :=
  b.permissions.listed.map fun e => .set b.side b.name e.1 e.2

/-- The lines for chat decoration. -/
def decorations (side : Side) (name : String) (before after : Option String) : List Line :=
  (before.map (Line.decorate side name .before)).toList ++
    (after.map (Line.decorate side name .after)).toList

/-- The commands that set what an entity has: its permissions, which the
parent, decoration and members of a group follow. -/
def properties (b : Block) : List Line :=
  match b with
  | player name p => b.settings ++ decorations .player name p.chatPrefix p.chatSuffix
  | group name g =>
    b.settings ++ (g.primaryParent.map (Line.setParent name)).toList ++
      decorations .group name g.chatPrefix g.chatSuffix ++ g.members.map (Line.add name)

/-- All lines of a block. A group is created before anything is set. -/
def lines (b : Block) : List Line :=
  match b with
  | player name _ => .heading .player name :: b.properties
  | group name _ => .heading .group name :: .create name :: b.properties

end Block

/-- The namespace that the target fills by itself. -/
def reservedNamespace : String := "group."

/-- Whether a key is in that namespace, whatever its case. -/
def isReserved (key : String) : Bool := (Text.lowercase key).startsWith reservedNamespace

/-- The reserved keys are those whose lower case begins with `group.`. -/
theorem isReserved_iff {key : String} :
    isReserved key = true ↔ "group.".toList <+: (Text.lowercase key).toList :=
  String.startsWith_string_iff

/-- A warning for each reserved key of a block. -/
def Block.warnings (b : Block) : List Warning :=
  (b.permissions.listed.filter fun e => isReserved e.1).map fun e =>
    .reservedPermission b.side b.name e.1

/-- A script: blocks in the order in which they are written. -/
abbrev Script := List Block

/-- What is counted, and what there is to warn of, when a script is written. -/
structure Tally where
  players : Nat
  groups : Nat
  lines : Nat
  warnings : List Warning
  deriving DecidableEq

namespace Script

/-- The block of a player, unless there is nothing to write. -/
def playerBlock? (name : String) (p : Player) : Option Block :=
  if p.isBlank then none else some (.player name p)

/-- The script of all players in table order and of the groups named in
`order`; a name that has no group is passed over. -/
def of (players : Table Player) (groups : Table Group) (order : List String) : Script :=
  players.toList.filterMap (fun e => playerBlock? e.1 e.2) ++
    order.filterMap fun name => (groups.get? name).map (.group name)

/-- All lines. -/
def lines (s : Script) : List Line := s.flatMap Block.lines

/-- The number of players with a block. -/
def playerCount (s : Script) : Nat := s.countP (·.side == .player)

/-- The number of groups with a block. -/
def groupCount (s : Script) : Nat := s.countP (·.side == .group)

/-- The number of lines, headings included. -/
def lineCount (s : Script) : Nat := s.lines.length

/-- The warnings of all blocks. -/
def warnings (s : Script) : List Warning := s.flatMap Block.warnings

/-- The counts and the warnings. -/
def tally (s : Script) : Tally := ⟨s.playerCount, s.groupCount, s.lineCount, s.warnings⟩

/-- The script as text, each line with its end. -/
def text (s : Script) : String := String.join (s.lines.map fun l => l.text ++ "\n")

end Script

end PermScript

/-
Groups, players and the roster that the configurations of a run build up.
-/
import PermScript.Permission.Set
import PermScript.Table
import PermScript.Warning

namespace PermScript

/-- A permission group. -/
structure Group where
  permissions : PermissionSet := ∅
  /-- The declared parents in order; only the first can be written. -/
  parents : List String := []
  chatPrefix : Option String := none
  chatSuffix : Option String := none
  /-- The players that belong to it, in the order in which they joined. -/
  members : List String := []
  deriving DecidableEq, Inhabited

/-- The parent that is written. -/
def Group.primaryParent (g : Group) : Option String := g.parents.head?

/-- A player. -/
structure Player where
  permissions : PermissionSet := ∅
  chatPrefix : Option String := none
  chatSuffix : Option String := none
  deriving DecidableEq, Inhabited

/-- Whether there is nothing to write about a player. -/
def Player.isBlank (p : Player) : Bool :=
  p.permissions.isEmpty && p.chatPrefix.isNone && p.chatSuffix.isNone

/-- What the configurations read so far declare. -/
structure Roster where
  groups : Table Group := ∅
  players : Table Player := ∅
  warnings : List Warning := []

/-- The roster before any configuration is read. -/
def Roster.empty : Roster := ⟨∅, ∅, []⟩

instance : EmptyCollection Roster := ⟨Roster.empty⟩

instance : Inhabited Roster := ⟨Roster.empty⟩

end PermScript

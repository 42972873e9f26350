/-
Joining players to groups.
-/
import PermScript.Entity

namespace PermScript

/-- Adds a player at the end of a group's members. -/
def Group.join (player : String) (g : Group) : Group :=
  { g with members := g.members ++ [player] }

/-- Joins a player to each of the groups in turn, as often as it is named.
A group that is not defined is passed over with a warning. -/
def link (player : String) : List String → Table Group → Table Group × List Warning
  | [], groups => (groups, [])
  | name :: names, groups =>
    if groups.contains name then link player names (groups.modify name (Group.join player))
    else
      let (groups, warnings) := link player names groups
      (groups, .missingGroup player name :: warnings)

end PermScript

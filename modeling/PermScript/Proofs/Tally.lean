/-
What is counted when a script is written, and what is warned of.

A block has as many lines as its entity has things to say
(`Player.lineCount`, `Group.lineCount`), and a warning for each of its
reserved keys in the order of a listing (`Block.warnings_eq`). The tally of a
script sums this up over the players that are not blank and the groups that
the order names, and its text is that of their blocks.
-/
import PermScript.Proofs.Listing
import PermScript.Proofs.Replay

namespace PermScript

/-! ## One block -/

/-- The lines that a player takes: a heading, one for each key, and one for
each piece of chat decoration. -/
def Player.lineCount (p : Player) : Nat :=
  1 + p.permissions.size + p.chatPrefix.isSome.toNat + p.chatSuffix.isSome.toNat

/-- The lines that a group takes: a heading and its creation, one for each
key, one for the parent if it declares any, one for each piece of chat
decoration, and one for each member. -/
def Group.lineCount (g : Group) : Nat :=
  2 + g.permissions.size + (!g.parents.isEmpty).toNat + g.chatPrefix.isSome.toNat +
    g.chatSuffix.isSome.toNat + g.members.length

namespace Block

theorem length_settings (b : Block) : b.settings.length = b.permissions.size := by
  rw [settings, List.length_map, b.permissions.listed_perm.length_eq, PermissionSet.size]

theorem length_decorations (side : Side) (name : String) (before after : Option String) :
    (decorations side name before after).length = before.isSome.toNat + after.isSome.toNat := by
  cases before <;> cases after <;> rfl

theorem length_lines_player (name : String) (p : Player) :
    (player name p).lines.length = p.lineCount := by
  have hsettings : (player name p).settings.length = p.permissions.size := length_settings _
  simp only [lines, properties, List.length_append, List.length_cons, hsettings, length_decorations,
    Player.lineCount]
  omega

theorem length_lines_group (name : String) (g : Group) :
    (group name g).lines.length = g.lineCount := by
  have hsettings : (group name g).settings.length = g.permissions.size := length_settings _
  have hparent : (g.primaryParent.map (Line.setParent name)).toList.length =
      (!g.parents.isEmpty).toNat := by
    rw [Group.primaryParent]
    cases g.parents <;> rfl
  simp only [lines, properties, List.length_append, List.length_cons, List.length_map, hsettings,
    hparent, length_decorations, Group.lineCount]
  omega

end Block

/-! ## Reserved keys -/

/-- The reserved keys of a set, those whose lower case begins with `group.`,
in the order of a listing. -/
def PermissionSet.reservedKeys (s : PermissionSet) : List String :=
  (s.keys.filter fun key => "group.".toList <+: (Text.lowercase key).toList).sort ListedBefore

/-- A warning for each reserved key of an entity. -/
def reservedWarnings (side : Side) (name : String) (s : PermissionSet) : List Warning :=
  s.reservedKeys.map (.reservedPermission side name)

theorem filter_listed (s : PermissionSet) :
    (s.listed.map Prod.fst).filter isReserved = s.reservedKeys := by
  have hsorted := s.pairwise_listed.filter isReserved
  have hkeys : s.keys = (s.listed.map Prod.fst).toFinset := by
    rw [s.map_fst_listed, Finset.sort_toFinset]
  simp only [PermissionSet.reservedKeys, ← isReserved_iff]
  rw [hkeys, ← List.toFinset_filter]
  exact ((List.toFinset_sort ListedBefore (s.nodup_keys_listed.filter isReserved)).2 hsorted).symm

/-- A block warns of its reserved keys as they are listed. -/
theorem Block.warnings_eq (b : Block) :
    b.warnings = reservedWarnings b.side b.name b.permissions := by
  rw [Block.warnings, reservedWarnings, ← filter_listed, List.filter_map, List.map_map]
  rfl

/-! ## Scripts -/

/-- The text of a block. -/
def Block.text (b : Block) : String := scriptText b.lines

theorem Script.text_eq_join (s : Script) : s.text = String.join (s.map Block.text) := by
  induction s with
  | nil => rfl
  | cons b s ih =>
    rw [List.map_cons, String.join_cons, ← ih, Block.text, scriptText, text, lines,
      List.flatMap_cons, List.map_append, String.join_append]
    rfl

/-- The players there is something to write about. -/
def nonblank (players : Table Player) : List (String × Player) :=
  players.toList.filter fun e => !e.2.isBlank

/-- The groups that an order names, each as often as it is named. -/
def named (groups : Table Group) (order : List String) : List (String × Group) :=
  order.filterMap fun name => (groups.get? name).map fun g => (name, g)

theorem length_named (groups : Table Group) (order : List String) :
    (named groups order).length = order.countP groups.contains := by
  rw [named, List.length_filterMap_eq_countP]
  refine List.countP_congr fun name _ => ?_
  rw [Option.isSome_map, Option.isSome_iff_exists, ← Table.mem_names, Table.contains_iff]

/-- The blocks of some players, then those of some groups. -/
def blocks (players : List (String × Player)) (groups : List (String × Group)) : Script :=
  players.map (fun e => .player e.1 e.2) ++ groups.map fun e => .group e.1 e.2

section

variable (players : List (String × Player)) (groups : List (String × Group))

theorem playerCount_blocks : (blocks players groups).playerCount = players.length := by
  simp [blocks, Script.playerCount, Block.side, Function.comp_def]

theorem groupCount_blocks : (blocks players groups).groupCount = groups.length := by
  simp [blocks, Script.groupCount, Block.side, Function.comp_def]

theorem lineCount_blocks : (blocks players groups).lineCount =
    (players.map fun e => e.2.lineCount).sum + (groups.map fun e => e.2.lineCount).sum := by
  simp only [blocks, Script.lineCount, Script.lines, List.flatMap_append, List.flatMap_map,
    List.length_append, List.length_flatMap, Block.length_lines_player,
    Block.length_lines_group]

theorem warnings_blocks : (blocks players groups).warnings =
    (players.flatMap fun e => reservedWarnings .player e.1 e.2.permissions) ++
      groups.flatMap fun e => reservedWarnings .group e.1 e.2.permissions := by
  simp only [blocks, Script.warnings, List.flatMap_append, List.flatMap_map, Block.warnings_eq]
  rfl

theorem text_blocks : (blocks players groups).text =
    String.join (players.map fun e => (Block.player e.1 e.2).text) ++
      String.join (groups.map fun e => (Block.group e.1 e.2).text) := by
  rw [Script.text_eq_join, blocks, List.map_append, List.map_map, List.map_map,
    String.join_append]
  rfl

end

/-- What is counted and warned of in a script comes from the players that
are not blank and from the groups that the order names, and so does its
text. -/
theorem tally_of (players : Table Player) (groups : Table Group) (order : List String) :
    (Script.of players groups order).tally =
      { players := players.toList.countP fun e => !e.2.isBlank
        groups := order.countP groups.contains
        lines := ((nonblank players).map fun e => e.2.lineCount).sum +
          ((named groups order).map fun e => e.2.lineCount).sum
        warnings :=
          ((nonblank players).flatMap fun e => reservedWarnings .player e.1 e.2.permissions) ++
            (named groups order).flatMap fun e =>
              reservedWarnings .group e.1 e.2.permissions } ∧
    (Script.of players groups order).text =
      String.join ((nonblank players).map fun e => (Block.player e.1 e.2).text) ++
        String.join ((named groups order).map fun e => (Block.group e.1 e.2).text) := by
  have hof : Script.of players groups order = blocks (nonblank players) (named groups order) :=
    Script.of_eq_append players groups order
  have hnonblank : (nonblank players).length = players.toList.countP fun e => !e.2.isBlank :=
    List.countP_eq_length_filter.symm
  rw [hof, Script.tally, playerCount_blocks, groupCount_blocks, lineCount_blocks,
    warnings_blocks, text_blocks, hnonblank, length_named]
  exact ⟨rfl, rfl⟩

end PermScript

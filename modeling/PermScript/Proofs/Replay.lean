/-
A script rebuilds the roster it was written from, as far as scripts go: the
players there is something to write about and the groups that have a place
in the order, each with its first parent.

`onPlayer` and `onGroup` say what one command does to its entity, `obey` what
it does to a realm. What the commands of one block come to is shown first;
the blocks of a script are then as many insertions.
-/
import PermScript.Membership
import PermScript.Proofs.PermissionSet
import PermScript.Proofs.Reading
import PermScript.Proofs.Steps
import PermScript.Report

namespace PermScript

/-! ## Carrying out commands -/

/-- What a command does to the player it is about. -/
def Line.onPlayer : Line → Player → Player
  | set _ _ key value, p => { p with permissions := p.permissions.insert key value }
  | decorate _ _ .before text, p => { p with chatPrefix := some text }
  | decorate _ _ .after text, p => { p with chatSuffix := some text }
  | _, p => p

/-- What a command does to the group it is about, once that is created. -/
def Line.onGroup : Line → Group → Group
  | set _ _ key value, g => { g with permissions := g.permissions.insert key value }
  | setParent _ parent, g => { g with parents := [parent] }
  | decorate _ _ .before text, g => { g with chatPrefix := some text }
  | decorate _ _ .after text, g => { g with chatSuffix := some text }
  | add _ member, g => g.join member
  | _, g => g

/-- The players and groups that commands have built up. -/
structure Realm where
  players : Table Player := ∅
  groups : Table Group := ∅

/-- Carries out a command. A player comes to exist at its first command, a
group when it is created. -/
def Realm.obey (realm : Realm) : Line → Realm
  | .heading .. => realm
  | .create name => { realm with groups := realm.groups.insert name {} }
  | l =>
    match l.side with
    | .player =>
      { realm with
        players := realm.players.insert l.name
          (l.onPlayer ((realm.players.get? l.name).getD {})) }
    | .group => { realm with groups := realm.groups.modify l.name l.onGroup }

/-- Reads a script and carries it out. -/
def replay (text : String) : Option Realm :=
  (readScript? text).map fun commands => commands.foldl Realm.obey {}

/-! ## Commands about one entity -/

/-- The line is a command about that player. -/
def Line.IsFor (side : Side) (name : String) (l : Line) : Prop :=
  l.isCommand = true ∧ l.side = side ∧ l.name = name ∧ l ≠ .create name

theorem obey_player {l : Line} {name : String} (h : l.IsFor .player name) (realm : Realm) :
    realm.obey l =
      { realm with
        players := realm.players.insert name
          (l.onPlayer ((realm.players.get? name).getD {})) } := by
  obtain ⟨hc, hside, rfl, -⟩ := h
  cases l with
  | set side => cases hside; rfl
  | decorate side => cases hside; rfl
  | heading => cases hc
  | _ => cases hside

theorem obey_new_player {l : Line} {name : String} (h : l.IsFor .player name)
    {players : Table Player} (hname : name ∉ players.names) (groups : Table Group) :
    Realm.obey ⟨players, groups⟩ l = ⟨players.insert name (l.onPlayer {}), groups⟩ := by
  rw [obey_player h]
  simp only [Table.get?_eq_none.2 hname, Option.getD_none]

theorem foldl_obey_player {ls : List Line} {name : String} (h : ∀ l ∈ ls, l.IsFor .player name)
    (players : Table Player) (groups : Table Group) (p : Player) :
    ls.foldl Realm.obey ⟨players.insert name p, groups⟩ =
      ⟨players.insert name (ls.foldl (fun p l => l.onPlayer p) p), groups⟩ := by
  induction ls generalizing p with
  | nil => rfl
  | cons l ls ih =>
    rw [List.foldl_cons, obey_player (h l (by simp)), Table.get?_insert, if_pos rfl,
      Table.insert_insert]
    exact ih (fun m hm => h m (by simp [hm])) _

theorem obey_group {l : Line} {name : String} (h : l.IsFor .group name) (realm : Realm) :
    realm.obey l = { realm with groups := realm.groups.modify name l.onGroup } := by
  obtain ⟨hc, hside, rfl, hne⟩ := h
  cases l with
  | set side => cases hside; rfl
  | decorate side => cases hside; rfl
  | heading => cases hc
  | create => exact absurd rfl hne
  | _ => rfl

theorem foldl_obey_group {ls : List Line} {name : String} (h : ∀ l ∈ ls, l.IsFor .group name)
    (players : Table Player) (groups : Table Group) (g : Group) :
    ls.foldl Realm.obey ⟨players, groups.insert name g⟩ =
      ⟨players, groups.insert name (ls.foldl (fun g l => l.onGroup g) g)⟩ := by
  induction ls generalizing g with
  | nil => rfl
  | cons l ls ih =>
    rw [List.foldl_cons, obey_group (h l (by simp)), Table.modify_insert]
    exact ih (fun m hm => h m (by simp [hm])) _

/-! ## Blocks -/

namespace Block

theorem isFor_settings (b : Block) : ∀ l ∈ b.settings, l.IsFor b.side b.name := by
  intro l hl
  obtain ⟨e, -, rfl⟩ := List.mem_map.1 hl
  exact ⟨rfl, rfl, rfl, nofun⟩

theorem isFor_decorations (side : Side) (name : String) (before after : Option String) :
    ∀ l ∈ decorations side name before after, l.IsFor side name := by
  intro l hl
  simp only [decorations, List.mem_append, Option.mem_toList, Option.map_eq_some_iff] at hl
  rcases hl with ⟨text, -, rfl⟩ | ⟨text, -, rfl⟩
  · exact ⟨rfl, rfl, rfl, nofun⟩
  · exact ⟨rfl, rfl, rfl, nofun⟩

theorem isFor_properties (b : Block) : ∀ l ∈ b.properties, l.IsFor b.side b.name := by
  intro l hl
  cases b with
  | player name p =>
    rcases List.mem_append.1 hl with hl | hl
    · exact isFor_settings _ l hl
    · exact isFor_decorations _ _ _ _ l hl
  | group name g =>
    simp only [properties, List.mem_append, Option.mem_toList, Option.map_eq_some_iff,
      List.mem_map] at hl
    rcases hl with ((hl | ⟨parent, -, rfl⟩) | hl) | ⟨member, -, rfl⟩
    · exact isFor_settings _ l hl
    · exact ⟨rfl, rfl, rfl, nofun⟩
    · exact isFor_decorations _ _ _ _ l hl
    · exact ⟨rfl, rfl, rfl, nofun⟩

/-- The lines of a player are a comment and the commands. -/
theorem lines_player (name : String) (p : Player) :
    (player name p).lines = .heading .player name :: (player name p).properties := rfl

/-- The lines of a group are a comment, its creation and the commands. -/
theorem lines_group (name : String) (g : Group) :
    (group name g).lines =
      .heading .group name :: .create name :: (group name g).properties := rfl

theorem filter_properties (b : Block) : b.properties.filter Line.isCommand = b.properties :=
  List.filter_eq_self.2 fun l hl => (isFor_properties b l hl).1

end Block

/-- What is written of a group: all of it, but only the first of its parents. -/
def Group.written (g : Group) : Group := { g with parents := g.primaryParent.toList }

section

variable (side : Side) (name : String)

theorem foldl_onPlayer_settings (entries : List Permission) (p : Player) :
    (entries.map fun e => Line.set side name e.1 e.2).foldl (fun p l => l.onPlayer p) p =
      { p with permissions := p.permissions.insertMany entries } := by
  rw [List.foldl_map]
  induction entries generalizing p with
  | nil => rfl
  | cons e entries ih => exact ih _

theorem foldl_onPlayer_decorations (before after : Option String) (p : Player) :
    (Block.decorations side name before after).foldl (fun p l => l.onPlayer p) p =
      { p with chatPrefix := before.or p.chatPrefix, chatSuffix := after.or p.chatSuffix } := by
  cases before <;> cases after <;> rfl

theorem foldl_onGroup_settings (entries : List Permission) (g : Group) :
    (entries.map fun e => Line.set side name e.1 e.2).foldl (fun g l => l.onGroup g) g =
      { g with permissions := g.permissions.insertMany entries } := by
  rw [List.foldl_map]
  induction entries generalizing g with
  | nil => rfl
  | cons e entries ih => exact ih _

theorem foldl_onGroup_decorations (before after : Option String) (g : Group) :
    (Block.decorations side name before after).foldl (fun g l => l.onGroup g) g =
      { g with chatPrefix := before.or g.chatPrefix, chatSuffix := after.or g.chatSuffix } := by
  cases before <;> cases after <;> rfl

theorem foldl_onGroup_members (members : List String) (g : Group) :
    (members.map (Line.add name)).foldl (fun g l => l.onGroup g) g =
      { g with members := g.members ++ members } := by
  rw [List.foldl_map]
  induction members generalizing g with
  | nil => rw [List.append_nil]; rfl
  | cons m members ih => rw [List.foldl_cons, ih]; simp [Line.onGroup, Group.join]

theorem foldl_onGroup_parent (parent : Option String) (g : Group) :
    (parent.map (Line.setParent name)).toList.foldl (fun g l => l.onGroup g) g =
      { g with parents := (parent.map fun p => [p]).getD g.parents } := by
  cases parent <;> rfl

end

/-- The commands of a player make the player. -/
theorem foldl_onPlayer_properties (name : String) (p : Player) :
    (Block.player name p).properties.foldl (fun p l => l.onPlayer p) {} = p := by
  rw [Block.properties, List.foldl_append, Block.settings, foldl_onPlayer_settings,
    foldl_onPlayer_decorations]
  simp [Block.permissions, PermissionSet.insertMany_listed]

/-- The commands of a group make the group with its first parent. -/
theorem foldl_onGroup_properties (name : String) (g : Group) :
    (Block.group name g).properties.foldl (fun g l => l.onGroup g) {} = g.written := by
  have hparents : ((g.primaryParent.map fun p => [p]).getD []) = g.primaryParent.toList := by
    cases g.primaryParent <;> rfl
  rw [Block.properties, List.foldl_append, List.foldl_append, List.foldl_append, Block.settings,
    foldl_onGroup_settings, foldl_onGroup_parent, foldl_onGroup_decorations, foldl_onGroup_members]
  simp [Block.permissions, PermissionSet.insertMany_listed, Group.written, hparents]

/-! ## Scripts -/

/-- The commands of a script. -/
def Script.commands (s : Script) : List Line := s.lines.filter Line.isCommand

/-- A new player's block puts the player in. -/
theorem foldl_obey_playerBlock {players : Table Player} {name : String} {p : Player}
    (hname : name ∉ players.names) (hp : p.isBlank = false) (groups : Table Group) :
    (Script.commands [.player name p]).foldl Realm.obey ⟨players, groups⟩ =
      ⟨players.insert name p, groups⟩ := by
  have hcommands : Script.commands [.player name p] = (Block.player name p).properties := by
    rw [Script.commands, Script.lines, List.flatMap_singleton, Block.lines_player,
      List.filter_cons_of_neg (by simp [Line.isCommand]), Block.filter_properties]
  have hmake := foldl_onPlayer_properties name p
  have hfor := Block.isFor_properties (.player name p)
  rw [hcommands]
  cases hls : (Block.player name p).properties with
  | nil =>
    -- a block without commands would make a blank player
    rw [hls] at hmake
    rw [← hmake] at hp
    cases hp
  | cons l ls =>
    rw [hls] at hmake hfor
    rw [List.foldl_cons, obey_new_player (hfor l (by simp)) hname,
      foldl_obey_player fun m hm => hfor m (by simp [hm])]
    exact congrArg (fun p => Realm.mk (players.insert name p) groups) hmake

/-- A group's block puts the group in as it is written. -/
theorem foldl_obey_groupBlock (players : Table Player) (groups : Table Group) (name : String)
    (g : Group) :
    (Script.commands [.group name g]).foldl Realm.obey ⟨players, groups⟩ =
      ⟨players, groups.insert name g.written⟩ := by
  have hcommands : Script.commands [.group name g] =
      .create name :: (Block.group name g).properties := by
    rw [Script.commands, Script.lines, List.flatMap_singleton, Block.lines_group,
      List.filter_cons_of_neg (by simp [Line.isCommand]),
      List.filter_cons_of_pos (by simp [Line.isCommand]), Block.filter_properties]
  rw [hcommands, List.foldl_cons, ← foldl_onGroup_properties name g]
  exact foldl_obey_group (Block.isFor_properties (.group name g)) players groups {}

theorem commands_cons (b : Block) (bs : Script) :
    Script.commands (b :: bs) = Script.commands [b] ++ Script.commands bs := by
  simp [Script.commands, Script.lines]

theorem commands_append (bs cs : Script) :
    Script.commands (bs ++ cs) = Script.commands bs ++ Script.commands cs := by
  simp [Script.commands, Script.lines]

theorem foldl_obey_playerBlocks {players : Table Player} {es : List (String × Player)}
    (hnodup : (players.names ++ es.map Prod.fst).Nodup) (hes : ∀ e ∈ es, e.2.isBlank = false)
    (groups : Table Group) :
    (Script.commands (es.map fun e => .player e.1 e.2)).foldl Realm.obey ⟨players, groups⟩ =
      ⟨players.insertAll es, groups⟩ := by
  induction es generalizing players with
  | nil => rfl
  | cons e es ih =>
    have hname : e.1 ∉ players.names := fun hm =>
      (List.nodup_append.1 hnodup).2.2 _ hm _ (by simp) rfl
    have hnext : ((players.insert e.1 e.2).names ++ es.map Prod.fst).Nodup := by
      rw [Table.names_insert, if_neg hname, List.append_assoc]
      exact hnodup
    rw [List.map_cons, commands_cons, List.foldl_append,
      foldl_obey_playerBlock hname (hes e (by simp)), ih hnext fun f hf => hes f (by simp [hf])]
    rfl

theorem foldl_obey_groupBlocks (players : Table Player) (groups : Table Group)
    (es : List (String × Group)) :
    (Script.commands (es.map fun e => .group e.1 e.2)).foldl Realm.obey ⟨players, groups⟩ =
      ⟨players, groups.insertAll (es.map fun e => (e.1, e.2.written))⟩ := by
  induction es generalizing groups with
  | nil => rfl
  | cons e es ih =>
    rw [List.map_cons, commands_cons, List.foldl_append, foldl_obey_groupBlock, ih]
    rfl

/-! ## Rosters that can be read back -/

/-- Keys are words, and chat decoration is on one line. -/
structure Player.Plain (p : Player) : Prop where
  keys : ∀ e ∈ p.permissions.entries, OneWord e.1
  chatPrefix : ∀ text ∈ p.chatPrefix, OneLine text
  chatSuffix : ∀ text ∈ p.chatSuffix, OneLine text

/-- Keys are words; parents, chat decoration and members are on one line. -/
structure Group.Plain (g : Group) : Prop where
  keys : ∀ e ∈ g.permissions.entries, OneWord e.1
  parents : ∀ parent ∈ g.parents, OneLine parent
  chatPrefix : ∀ text ∈ g.chatPrefix, OneLine text
  chatSuffix : ∀ text ∈ g.chatSuffix, OneLine text
  members : ∀ member ∈ g.members, OneLine member

/-- Names and keys are words, and all other texts are on one line. -/
structure Roster.Plain (r : Roster) : Prop where
  playerNames : ∀ name ∈ r.players.names, OneWord name
  groupNames : ∀ name ∈ r.groups.names, OneWord name
  players : ∀ name p, r.players.get? name = some p → p.Plain
  groups : ∀ name g, r.groups.get? name = some g → g.Plain

theorem plain_settings {b : Block} (hname : OneWord b.name)
    (hkeys : ∀ e ∈ b.permissions.entries, OneWord e.1) : ∀ l ∈ b.settings, l.Plain := by
  intro l hl
  obtain ⟨e, he, rfl⟩ := List.mem_map.1 hl
  exact ⟨hname, hkeys e (b.permissions.listed_perm.mem_iff.1 he)⟩

theorem plain_decorations {side : Side} {name : String} {before after : Option String}
    (hname : OneWord name) (hbefore : ∀ text ∈ before, OneLine text)
    (hafter : ∀ text ∈ after, OneLine text) :
    ∀ l ∈ Block.decorations side name before after, l.Plain := by
  intro l hl
  simp only [Block.decorations, List.mem_append, Option.mem_toList, Option.map_eq_some_iff] at hl
  rcases hl with ⟨text, htext, rfl⟩ | ⟨text, htext, rfl⟩
  · exact ⟨hname, hbefore text htext⟩
  · exact ⟨hname, hafter text htext⟩

theorem plain_player {name : String} {p : Player} (hname : OneWord name) (hp : p.Plain) :
    ∀ l ∈ (Block.player name p).lines, l.Plain := by
  intro l hl
  rw [Block.lines_player, List.mem_cons, Block.properties, List.mem_append] at hl
  rcases hl with rfl | hl | hl
  · exact hname
  · exact plain_settings (b := .player name p) hname hp.keys l hl
  · exact plain_decorations hname hp.chatPrefix hp.chatSuffix l hl

theorem plain_group {name : String} {g : Group} (hname : OneWord name) (hg : g.Plain) :
    ∀ l ∈ (Block.group name g).lines, l.Plain := by
  intro l hl
  simp only [Block.lines_group, List.mem_cons, Block.properties, List.mem_append, List.mem_map,
    Option.mem_toList, Option.map_eq_some_iff] at hl
  rcases hl with rfl | rfl | ((hl | ⟨parent, hparent, rfl⟩) | hl) | ⟨member, hmember, rfl⟩
  · exact hname
  · exact hname
  · exact plain_settings (b := .group name g) hname hg.keys l hl
  · exact ⟨hname, hg.parents parent (List.mem_of_head? hparent)⟩
  · exact plain_decorations hname hg.chatPrefix hg.chatSuffix l hl
  · exact ⟨hname, hg.members member hmember⟩

/-! ## Replaying a script -/

/-- The blocks of a script are those of the players that are not blank, then
those of the groups that the order names. -/
theorem Script.of_eq_append (players : Table Player) (groups : Table Group) (order : List String) :
    Script.of players groups order =
      ((players.toList.filter fun e => !e.2.isBlank).map fun e => Block.player e.1 e.2) ++
        (order.filterMap fun name => (groups.get? name).map fun g => (name, g)).map fun e =>
          Block.group e.1 e.2 := by
  have hplayers : players.toList.filterMap (fun e => Script.playerBlock? e.1 e.2) =
      (players.toList.filter fun e => !e.2.isBlank).map fun e => Block.player e.1 e.2 := by
    rw [← List.filterMap_eq_map, List.filterMap_filter]
    refine List.filterMap_congr fun e _ => ?_
    cases h : e.2.isBlank <;> simp [Script.playerBlock?, h]
  have hgroups : (order.filterMap fun name => (groups.get? name).map (Block.group name)) =
      (order.filterMap fun name => (groups.get? name).map fun g => (name, g)).map fun e =>
        Block.group e.1 e.2 := by
    rw [List.map_filterMap]
    refine List.filterMap_congr fun name _ => ?_
    rw [Option.map_map]
    rfl
  exact congrArg₂ _ hplayers hgroups

namespace Roster

/-- The players there is something to write about, in table order. -/
def writtenPlayers (r : Roster) : List (String × Player) :=
  r.players.toList.filter fun e => !e.2.isBlank

/-- The groups in the order in which they are written. -/
def writtenGroups (r : Roster) : List (String × Group) :=
  (resolve r.groups).order.filterMap fun name => (r.groups.get? name).map fun g => (name, g)

theorem names_writtenGroups (r : Roster) :
    r.writtenGroups.map Prod.fst = (resolve r.groups).order := by
  rw [writtenGroups, List.map_filterMap]
  refine (List.filterMap_congr fun name hname => ?_).trans List.filterMap_some
  obtain ⟨g, hg⟩ := Table.mem_names.1 (mem_names_of_mem_order hname)
  rw [hg]
  rfl

theorem mem_writtenPlayers {r : Roster} {e : String × Player} :
    e ∈ r.writtenPlayers ↔ r.players.get? e.1 = some e.2 ∧ e.2.isBlank = false := by
  rw [writtenPlayers, List.mem_filter, Table.get?_eq_some, Bool.not_eq_true']

theorem mem_writtenGroups {r : Roster} {e : String × Group} :
    e ∈ r.writtenGroups ↔ e.1 ∈ (resolve r.groups).order ∧ r.groups.get? e.1 = some e.2 := by
  simp only [writtenGroups, List.mem_filterMap, Option.map_eq_some_iff]
  constructor
  · rintro ⟨name, hname, g, hg, rfl⟩
    exact ⟨hname, hg⟩
  · rintro ⟨hname, hg⟩
    exact ⟨e.1, hname, e.2, hg, rfl⟩

theorem script_report (r : Roster) :
    r.report.script =
      (r.writtenPlayers.map fun e => Block.player e.1 e.2) ++
        r.writtenGroups.map fun e => Block.group e.1 e.2 :=
  Script.of_eq_append r.players r.groups (resolve r.groups).order

/-- All lines of a plain roster's script are plain. -/
theorem Plain.lines {r : Roster} (h : r.Plain) : ∀ l ∈ r.report.script.lines, l.Plain := by
  intro l hl
  obtain ⟨b, hb, hl⟩ := List.mem_flatMap.1 hl
  rw [script_report, List.mem_append, List.mem_map, List.mem_map] at hb
  rcases hb with ⟨e, he, rfl⟩ | ⟨e, he, rfl⟩
  · have hget := (mem_writtenPlayers.1 he).1
    exact plain_player (h.playerNames _ (Table.mem_names_of_get? hget)) (h.players _ _ hget) l hl
  · have hget := (mem_writtenGroups.1 he).2
    exact plain_group (h.groupNames _ (Table.mem_names_of_get? hget)) (h.groups _ _ hget) l hl

theorem commands_report (r : Roster) :
    Script.commands r.report.script =
      Script.commands (r.writtenPlayers.map fun e => .player e.1 e.2) ++
        Script.commands (r.writtenGroups.map fun e => .group e.1 e.2) := by
  rw [script_report, commands_append]

/-- The realm that a roster's script builds up. -/
def realm (r : Roster) : Realm where
  players := Table.ofList r.writtenPlayers
  groups := Table.ofList (r.writtenGroups.map fun e => (e.1, e.2.written))

theorem nodup_writtenPlayers (r : Roster) : (r.writtenPlayers.map Prod.fst).Nodup :=
  r.players.nodup_names.sublist (List.filter_sublist.map _)

theorem replay_text {r : Roster} (h : r.Plain) : replay r.report.script.text = some r.realm := by
  have hread : readScript? r.report.script.text = some (Script.commands r.report.script) :=
    readScript?_scriptText h.lines
  have hblank : ∀ e ∈ r.writtenPlayers, e.2.isBlank = false := fun _ he =>
    (mem_writtenPlayers.1 he).2
  rw [replay, hread, Option.map_some, commands_report, List.foldl_append,
    foldl_obey_playerBlocks (by simpa using r.nodup_writtenPlayers) hblank,
    foldl_obey_groupBlocks]
  rfl

end Roster

/-- The script of a plain roster rebuilds its players, blank ones apart, in
table order, and its groups, as far as they have a place in the order, each
with the first of its parents. -/
theorem replay_report {r : Roster} (h : r.Plain) :
    ∃ realm, replay r.report.script.text = some realm ∧
      realm.players.toList = (r.players.toList.filter fun e => !e.2.isBlank) ∧
      realm.groups.names = (resolve r.groups).order ∧
      ∀ name ∈ (resolve r.groups).order, ∃ g, r.groups.get? name = some g ∧
        realm.groups.get? name = some { g with parents := g.primaryParent.toList } := by
  have hnames : (r.writtenGroups.map fun e => (e.1, e.2.written)).map Prod.fst =
      (resolve r.groups).order := by
    rw [List.map_map]
    exact r.names_writtenGroups
  have hgroups : r.realm.groups.toList = r.writtenGroups.map fun e => (e.1, e.2.written) :=
    Table.toList_ofList (hnames ▸ nodup_order r.groups)
  refine ⟨r.realm, Roster.replay_text h, Table.toList_ofList r.nodup_writtenPlayers, ?_, ?_⟩
  · rw [Table.names, hgroups, hnames]
  · intro name hname
    obtain ⟨g, hg⟩ := Table.mem_names.1 (mem_names_of_mem_order hname)
    have hmem : (name, g) ∈ r.writtenGroups :=
      List.mem_filterMap.2 ⟨name, hname, Option.map_eq_some_iff.2 ⟨g, hg, rfl⟩⟩
    refine ⟨g, hg, Table.get?_eq_some.2 ?_⟩
    rw [hgroups]
    exact List.mem_map.2 ⟨(name, g), hmem, rfl⟩

/-- A player with keys in mixed case, a prefix of several words and a suffix
without text. -/
def townAda : Player where
  permissions := (∅ : PermissionSet).insertMany [("kit.Use", true), ("Build", false)]
  chatPrefix := some "of  the hill "
  chatSuffix := some ""

/-- A group with a second parent, which is not defined, and with a member
who joined twice. -/
def townStaff : Group where
  permissions := (∅ : PermissionSet).insertMany [("group.x", true)]
  parents := ["default", "not there"]
  members := ["ada", "big bob", "ada"]

def town : Roster where
  players := .ofList [("ghost", {}), ("ada", townAda)]
  groups := .ofList [("staff", townStaff), ("default", { chatPrefix := some " " })]

theorem toList_players_town : town.players.toList = [("ghost", {}), ("ada", townAda)] :=
  Table.toList_ofList (by decide)

theorem toList_groups_town :
    town.groups.toList = [("staff", townStaff), ("default", { chatPrefix := some " " })] :=
  Table.toList_ofList (by decide)

theorem get?_staff_town : town.groups.get? "staff" = some townStaff := by
  rw [Table.get?_eq_some, toList_groups_town]
  exact List.mem_cons_self

theorem plain_town : town.Plain where
  playerNames := by
    rw [Table.names, toList_players_town]
    decide
  groupNames := by
    rw [Table.names, toList_groups_town]
    decide
  players name p hp := by
    rw [Table.get?_eq_some, toList_players_town] at hp
    simp only [List.mem_cons, List.not_mem_nil, or_false, Prod.mk.injEq] at hp
    rcases hp with ⟨-, rfl⟩ | ⟨-, rfl⟩ <;> exact ⟨by decide, by decide, by decide⟩
  groups name g hg := by
    rw [Table.get?_eq_some, toList_groups_town] at hg
    simp only [List.mem_cons, List.not_mem_nil, or_false, Prod.mk.injEq] at hg
    rcases hg with ⟨-, rfl⟩ | ⟨-, rfl⟩ <;>
      exact ⟨by decide, by decide, by decide, by decide, by decide⟩

theorem order_town : (resolve town.groups).order = ["default", "staff"] := by
  have hroots : roots town.groups = ["default"] := by
    simp [roots, toList_groups_town, townStaff]
  have hplaced : placements town.groups = [("default", "staff")] := by
    have hdef : town.groups.contains "default" = true := by
      rw [Table.contains_iff, Table.names, toList_groups_town]
      decide
    simp [placements, placement, toList_groups_town, townStaff, hdef, List.filterMap_cons]
  exact order_eq_of_steps toList_groups_town hroots hplaced 2 (by decide +kernel)
    (by decide +kernel)

/-- The blank player is gone, and the group has its first parent only. -/
theorem replay_town :
    town.Plain ∧ ∃ realm, replay town.report.script.text = some realm ∧
      realm.players.toList = [("ada", townAda)] ∧
      realm.groups.names = ["default", "staff"] ∧
      realm.groups.get? "staff" = some { townStaff with parents := ["default"] } := by
  obtain ⟨realm, hreplay, hplayers, hnames, hgroups⟩ := replay_report plain_town
  rw [toList_players_town] at hplayers
  rw [order_town] at hnames hgroups
  obtain ⟨g, hg, hstaff⟩ := hgroups "staff" (by decide)
  cases get?_staff_town.symm.trans hg
  refine ⟨plain_town, realm, hreplay, hplayers.trans (by decide), hnames, hstaff⟩

end PermScript

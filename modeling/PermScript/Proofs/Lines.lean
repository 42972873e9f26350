/-
Whether a script is read line by line as it was written.

A line is put together from names, keys and other texts, and nothing keeps
these to one line. `lineByLine_iff`: the text of a script has the lines that
are counted, each of them a heading or a command, exactly if all that is
written of the roster is on one line. `forged_fourth_line` is about a
document whose prefix puts a line of its own into the script.
-/
import Mathlib.Algebra.Ring.Nat
import PermScript.Proofs.History
import PermScript.Proofs.Replay

namespace PermScript

open Config (Document)

/-! ## The lines of a text -/

/-- The lines of a text: what stands before each line end. -/
def linesOf (text : String) : List String := (pieces '\n' text).dropLast

/-- How many line ends a text has. -/
def lineEnds (text : String) : Nat := text.toList.count '\n'

theorem lineEnds_append (a b : String) : lineEnds (a ++ b) = lineEnds a + lineEnds b := by
  simp [lineEnds]

theorem lineEnds_eq_zero {text : String} : lineEnds text = 0 ↔ OneLine text := List.count_eq_zero

theorem lineEnds_scriptText (ls : List Line) :
    lineEnds (scriptText ls) = ls.length + (ls.map fun l => lineEnds l.text).sum := by
  induction ls with
  | nil => decide
  | cons l ls ih =>
    have hend : lineEnds "\n" = 1 := by decide
    rw [scriptText, List.map_cons, String.join_cons, ← scriptText, lineEnds_append,
      lineEnds_append, hend, ih, List.length_cons, List.map_cons, List.sum_cons]
    omega

theorem lineEnds_scriptText_eq_length {ls : List Line} :
    lineEnds (scriptText ls) = ls.length ↔ ∀ l ∈ ls, OneLine l.text := by
  rw [lineEnds_scriptText, Nat.add_eq_left, List.sum_eq_zero_iff_forall_eq_nat]
  simp [lineEnds_eq_zero]

theorem linesOf_scriptText {ls : List Line} (h : ∀ l ∈ ls, OneLine l.text) :
    linesOf (scriptText ls) = ls.map Line.text := by
  rw [linesOf, pieces_scriptText h, List.dropLast_concat]

/-! ## Statements -/

/-- What the lines of a script begin with. -/
def lineHeads : List String :=
  ["# Player ", "# Group ", "permissions player ", "permissions group "]

/-- A line that is a heading or a command. -/
def IsStatement (line : String) : Prop := ∃ head ∈ lineHeads, head.toList <+: line.toList

instance (line : String) : Decidable (IsStatement line) :=
  inferInstanceAs (Decidable (∃ head ∈ lineHeads, _))

theorem isStatement_commandHead (side : Side) (name rest : String) :
    IsStatement (commandHead side name ++ rest) := by
  refine ⟨"permissions " ++ side.keyword ++ " ", ?_, name.toList ++ rest.toList, ?_⟩
  · cases side <;> decide
  · simp [commandHead]

theorem isStatement_text (l : Line) : IsStatement l.text := by
  cases l with
  | heading side name =>
    refine ⟨"# " ++ side.title ++ " ", ?_, name.toList, ?_⟩
    · cases side <;> decide
    · simp [Line.text]
  | _ =>
    rw [Line.text_of_isCommand rfl, String.append_assoc]
    exact isStatement_commandHead ..

/-- The text of a report is one statement a line: it has the lines that are
counted, each a heading or a command. -/
structure LineByLine (report : Report) : Prop where
  lineEnds_eq : lineEnds report.script.text = report.tally.lines
  statements : ∀ line ∈ linesOf report.script.text, IsStatement line

theorem lineByLine_iff_lines {r : Roster} :
    LineByLine r.report ↔ ∀ l ∈ r.report.script.lines, OneLine l.text := by
  constructor
  · exact fun h => lineEnds_scriptText_eq_length.1 h.lineEnds_eq
  · intro h
    refine ⟨lineEnds_scriptText_eq_length.2 h, fun line hline => ?_⟩
    rw [Script.text, ← scriptText, linesOf_scriptText h, List.mem_map] at hline
    obtain ⟨l, -, rfl⟩ := hline
    exact isStatement_text l

/-! ## Rosters that are written line by line -/

/-- Keys and chat decoration are on one line each. -/
structure Player.Lined (p : Player) : Prop where
  keys : ∀ e ∈ p.permissions.entries, OneLine e.1
  chatPrefix : ∀ text ∈ p.chatPrefix, OneLine text
  chatSuffix : ∀ text ∈ p.chatSuffix, OneLine text

/-- Keys, the first parent, chat decoration and members are on one line
each. -/
structure Group.Lined (g : Group) : Prop where
  keys : ∀ e ∈ g.permissions.entries, OneLine e.1
  parent : ∀ parent ∈ g.primaryParent, OneLine parent
  chatPrefix : ∀ text ∈ g.chatPrefix, OneLine text
  chatSuffix : ∀ text ∈ g.chatSuffix, OneLine text
  members : ∀ member ∈ g.members, OneLine member

/-- The players there is something to write about and the groups of the
order are on one line in all that is written of them. -/
structure Roster.Lined (r : Roster) : Prop where
  players : ∀ name p, r.players.get? name = some p → p.isBlank = false → OneLine name ∧ p.Lined
  groups : ∀ name ∈ (resolve r.groups).order, ∀ g, r.groups.get? name = some g →
    OneLine name ∧ g.Lined

theorem oneLine_settings {b : Block} (hname : OneLine b.name) :
    (∀ l ∈ b.settings, OneLine l.text) ↔ ∀ e ∈ b.permissions.entries, OneLine e.1 := by
  have hmem : ∀ e, e ∈ b.permissions.listed ↔ e ∈ b.permissions.entries := fun _ =>
    b.permissions.listed_perm.mem_iff
  rw [Block.settings, List.forall_mem_map]
  refine forall_congr' fun e => imp_congr (hmem e) ?_
  simp [oneLine_text, Line.texts, hname]

theorem oneLine_decorations {side : Side} {name : String} (hname : OneLine name)
    {before after : Option String} :
    (∀ l ∈ Block.decorations side name before after, OneLine l.text) ↔
      (∀ text ∈ before, OneLine text) ∧ ∀ text ∈ after, OneLine text := by
  cases before <;> cases after <;>
    simp [Block.decorations, oneLine_text, Line.texts, hname]

theorem oneLine_lines_player {name : String} {p : Player} :
    (∀ l ∈ (Block.player name p).lines, OneLine l.text) ↔ OneLine name ∧ p.Lined := by
  have hhead : OneLine (Line.heading .player name).text ↔ OneLine name := by
    simp [oneLine_text, Line.texts]
  rw [Block.lines_player, List.forall_mem_cons, hhead, Block.properties, List.forall_mem_append]
  refine and_congr_right fun hname => ?_
  rw [oneLine_settings (b := .player name p) hname, oneLine_decorations hname]
  constructor
  · rintro ⟨hkeys, hbefore, hafter⟩
    exact ⟨hkeys, hbefore, hafter⟩
  · exact fun h => ⟨h.keys, h.chatPrefix, h.chatSuffix⟩

theorem oneLine_lines_group {name : String} {g : Group} :
    (∀ l ∈ (Block.group name g).lines, OneLine l.text) ↔ OneLine name ∧ g.Lined := by
  have hhead : OneLine (Line.heading .group name).text ↔ OneLine name := by
    simp [oneLine_text, Line.texts]
  have hcreate : OneLine (Line.create name).text ↔ OneLine name := by
    simp [oneLine_text, Line.texts]
  rw [Block.lines_group, List.forall_mem_cons, List.forall_mem_cons, hhead, hcreate, ← and_assoc,
    and_self, Block.properties]
  refine and_congr_right fun hname => ?_
  have hparent : (∀ l ∈ (g.primaryParent.map (Line.setParent name)).toList, OneLine l.text) ↔
      ∀ parent ∈ g.primaryParent, OneLine parent := by
    cases g.primaryParent <;> simp [oneLine_text, Line.texts, hname]
  have hmembers : (∀ l ∈ g.members.map (Line.add name), OneLine l.text) ↔
      ∀ member ∈ g.members, OneLine member := by
    simp [oneLine_text, Line.texts, hname]
  rw [List.forall_mem_append, List.forall_mem_append, List.forall_mem_append,
    oneLine_settings (b := .group name g) hname, hparent, oneLine_decorations hname, hmembers]
  constructor
  · rintro ⟨⟨⟨hkeys, hparent⟩, hbefore, hafter⟩, hmembers⟩
    exact ⟨hkeys, hparent, hbefore, hafter, hmembers⟩
  · exact fun h => ⟨⟨⟨h.keys, h.parent⟩, h.chatPrefix, h.chatSuffix⟩, h.members⟩

/-- The text of a roster's script is one statement a line exactly if all
that is written of the roster is on one line. -/
theorem lineByLine_iff (r : Roster) : LineByLine r.report ↔ r.Lined := by
  rw [lineByLine_iff_lines, Script.lines, Roster.script_report]
  simp only [List.forall_mem_flatMap, List.forall_mem_append, List.forall_mem_map,
    oneLine_lines_player, oneLine_lines_group, Roster.mem_writtenPlayers, Roster.mem_writtenGroups]
  constructor
  · rintro ⟨hplayers, hgroups⟩
    exact ⟨fun name p hp hblank => hplayers (name, p) ⟨hp, hblank⟩,
      fun name hname g hg => hgroups (name, g) ⟨hname, hg⟩⟩
  · rintro ⟨hplayers, hgroups⟩
    exact ⟨fun e he => hplayers e.1 e.2 he.1 he.2, fun e he => hgroups e.1 he.1 e.2 he.2⟩

/-! ## A document that writes a line of its own -/

/-- A group whose prefix goes on in a second line. -/
def forgedGroup : Group := { chatPrefix := some "[A]\nop eve" }

def forgedDocument : Document where
  dialect := .pex
  label := "doc.yml"
  value := .mapping [(.string "groups",
    .mapping [(.string "A", .mapping [(.string "prefix", .string "[A]\nop eve")])])]

def forgedRoster : Roster := { groups := .ofList [("A", forgedGroup)] }

theorem load_forged : loadAll [forgedDocument] ∅ = (.ok (), forgedRoster) := by
  have hdecl : forgedDocument.declaration = .ok { groups := [("A", forgedGroup.settings)] } := by
    rfl
  refine loadAll_eq_foldl_take.2 ⟨[{ groups := [("A", forgedGroup.settings)] }], ?_, rfl⟩
  rw [List.mapM_cons, hdecl]
  rfl

theorem order_forged : (resolve forgedRoster.groups).order = ["A"] := by
  have hlist : forgedRoster.groups.toList = [("A", forgedGroup)] := Table.toList_ofList (by decide)
  have hroots : roots forgedRoster.groups = ["A"] := by simp [roots, hlist, forgedGroup]
  have hplaced : placements forgedRoster.groups = [] := by
    simp [placements, placement, hlist, forgedGroup]
  exact order_eq_of_steps hlist hroots hplaced 1 (by decide +kernel) (by decide +kernel)

theorem lines_forged : forgedRoster.report.script.lines =
    [.heading .group "A", .create "A", .decorate .group "A" .before "[A]\nop eve"] := by
  have hget : forgedRoster.groups.get? "A" = some forgedGroup :=
    (Table.get?_insert _ _ _ _).trans (if_pos rfl)
  have hgroups : forgedRoster.writtenGroups = [("A", forgedGroup)] := by
    rw [Roster.writtenGroups, order_forged, List.filterMap_cons, hget]
    rfl
  have hlisted : (∅ : PermissionSet).listed = [] := (PermissionSet.listed_perm ∅).eq_nil
  have hsettings : (Block.group "A" forgedGroup).settings = [] := congrArg (List.map _) hlisted
  rw [Script.lines, Roster.script_report, hgroups, List.map_singleton, List.flatMap_append,
    List.flatMap_singleton, Block.lines_group, Block.properties, hsettings]
  rfl

/-- Three lines are counted, but there are four line ends, and the last line
is neither a heading nor a command. -/
theorem forged_fourth_line :
    loadAll [forgedDocument] ∅ = (.ok (), forgedRoster) ∧
      forgedRoster.report.tally.lines = 3 ∧ lineEnds forgedRoster.report.script.text = 4 ∧
      "op eve" ∈ linesOf forgedRoster.report.script.text ∧ ¬ IsStatement "op eve" ∧
      ¬ LineByLine forgedRoster.report := by
  have hcount : forgedRoster.report.tally.lines = 3 := congrArg List.length lines_forged
  have htext : forgedRoster.report.script.text = scriptText
      [.heading .group "A", .create "A", .decorate .group "A" .before "[A]\nop eve"] :=
    congrArg scriptText lines_forged
  have hends : lineEnds forgedRoster.report.script.text = 4 := by
    rw [htext]
    decide
  refine ⟨load_forged, hcount, hends, ?_, by decide, fun h => ?_⟩
  · rw [htext]
    decide
  · have := h.lineEnds_eq
    omega

end PermScript

/-
What a report warns of, and that no group is lost without a warning.

Each stage warns by itself: reading, ordering the groups and writing.
`warnings_report` has the warnings of all of them in one list, those of
writing read off the lines. The order and the groups left out of it are the
whole table (`perm_order_leftOut`), so that each group is either created or
reported, and that once.
-/
import PermScript.Proofs.Precedence

namespace PermScript

variable {groups : Table Group}

/-! ## The groups left out -/

/-- The groups that have no place in the order, in table order. -/
def leftOut (groups : Table Group) : List (String × Group) :=
  groups.toList.filter fun e => e.1 ∉ (resolve groups).order

theorem mem_leftOut {e : String × Group} :
    e ∈ leftOut groups ↔ groups.get? e.1 = some e.2 ∧ e.1 ∉ (resolve groups).order := by
  rw [leftOut, List.mem_filter, Table.get?_eq_some, decide_eq_true_iff]

theorem mem_names_leftOut {name : String} :
    name ∈ (leftOut groups).map Prod.fst ↔
      name ∈ groups.names ∧ name ∉ (resolve groups).order := by
  rw [Table.mem_names, List.mem_map]
  constructor
  · rintro ⟨e, he, rfl⟩
    obtain ⟨hg, hn⟩ := mem_leftOut.1 he
    exact ⟨⟨e.2, hg⟩, hn⟩
  · rintro ⟨⟨g, hg⟩, hn⟩
    exact ⟨(name, g), mem_leftOut.2 ⟨hg, hn⟩, rfl⟩

theorem nodup_names_leftOut (groups : Table Group) : ((leftOut groups).map Prod.fst).Nodup :=
  groups.nodup_names.sublist (List.filter_sublist.map _)

theorem perm_order_leftOut (groups : Table Group) :
    ((resolve groups).order ++ (leftOut groups).map Prod.fst).Perm groups.names := by
  have hdisj : ∀ n ∈ (resolve groups).order, ∀ m ∈ (leftOut groups).map Prod.fst, n ≠ m := by
    rintro n hn m hm rfl
    exact (mem_names_leftOut.1 hm).2 hn
  have hnodup : ((resolve groups).order ++ (leftOut groups).map Prod.fst).Nodup :=
    List.nodup_append.2 ⟨nodup_order groups, nodup_names_leftOut groups, hdisj⟩
  refine (List.perm_ext_iff_of_nodup hnodup groups.nodup_names).2 fun name => ?_
  rw [List.mem_append, mem_names_leftOut]
  constructor
  · rintro (hn | hn)
    · exact mem_names_of_mem_order hn
    · exact hn.1
  · intro hn
    by_cases ho : name ∈ (resolve groups).order
    · exact .inl ho
    · exact .inr ⟨hn, ho⟩

theorem primaryParent_of_mem_leftOut {e : String × Group} (h : e ∈ leftOut groups) :
    ∃ parent, e.2.primaryParent = some parent := by
  obtain ⟨hg, hn⟩ := mem_leftOut.1 h
  cases hp : e.2.parents with
  -- A group without parents is in the order as a root.
  | nil => exact absurd (mem_order.2 ((parentClosed_seen groups).root e.1 e.2 hg hp)) hn
  | cons parent rest => exact ⟨parent, by rw [Group.primaryParent, hp, List.head?_cons]⟩

/-! ## The warnings of the order -/

theorem unreachable_seen (groups : Table Group) :
    unreachable groups (fullWalk groups).seen =
      (leftOut groups).map fun e => .unreachableGroup e.1 e.2.primaryParent := by
  rw [unreachable, leftOut]
  congr 1
  refine List.filter_congr fun e _ => ?_
  rw [Bool.eq_iff_iff, decide_eq_true_iff, mem_order, Bool.not_eq_true', Bool.not_eq_true]

/-- The groups left out are reported; that they are looked for only if the
order is shorter than the table loses none. -/
theorem warnings_resolve (groups : Table Group) :
    (resolve groups).warnings =
      multipleParents groups ++
        (leftOut groups).map fun e => .unreachableGroup e.1 e.2.primaryParent := by
  have hlength : (resolve groups).order.length + (leftOut groups).length = groups.size := by
    rw [← Table.length_names, ← (perm_order_leftOut groups).length_eq, List.length_append,
      List.length_map]
  rw [← unreachable_seen]
  refine congrArg (multipleParents groups ++ ·) ?_
  split
  · rfl
  · rename_i hlt
    have hfull : groups.size ≤ (resolve groups).order.length := Nat.le_of_not_lt hlt
    have hnone : leftOut groups = [] := List.eq_nil_of_length_eq_zero (by omega)
    rw [unreachable_seen, hnone, List.map_nil]

/-! ## The warnings of the lines -/

/-- What a line gives cause to warn of: it sets a reserved key, one whose
lower case begins with `group.`. -/
def Line.warning? : Line → Option Warning
  | set side name key _ =>
    if "group.".toList <+: (Text.lowercase key).toList then
      some (.reservedPermission side name key)
    else none
  | _ => none

theorem filterMap_warning?_settings (b : Block) :
    b.settings.filterMap Line.warning? = b.warnings := by
  rw [Block.settings, Block.warnings, List.filterMap_map, ← List.filterMap_eq_map,
    List.filterMap_filter]
  refine List.filterMap_congr fun e _ => ?_
  by_cases h : isReserved e.1 = true
  · rw [if_pos h]
    exact if_pos (isReserved_iff.1 h)
  · rw [if_neg h]
    exact if_neg (mt isReserved_iff.2 h)

theorem filterMap_warning?_decorations (side : Side) (name : String)
    (before after : Option String) :
    (Block.decorations side name before after).filterMap Line.warning? = [] := by
  cases before <;> cases after <;> rfl

theorem filterMap_warning?_lines (b : Block) : b.lines.filterMap Line.warning? = b.warnings := by
  rw [← filterMap_warning?_settings]
  cases b with
  | player name p =>
    simp only [Block.lines, Block.properties, List.filterMap_cons, List.filterMap_append,
      Line.warning?, filterMap_warning?_decorations, List.append_nil]
  | group name g =>
    have hparent : (g.primaryParent.map (Line.setParent name)).toList.filterMap Line.warning? =
        [] := by
      cases g.primaryParent <;> rfl
    have hmembers : (g.members.map (Line.add name)).filterMap Line.warning? = [] := by
      simp [List.filterMap_map, Line.warning?, Function.comp_def]
    simp only [Block.lines, Block.properties, List.filterMap_cons, List.filterMap_append,
      Line.warning?, hparent, filterMap_warning?_decorations, hmembers, List.append_nil]

theorem warnings_script (s : Script) : s.warnings = s.lines.filterMap Line.warning? := by
  rw [Script.warnings, Script.lines, List.filterMap_flatMap]
  exact List.flatMap_congr fun b _ => (filterMap_warning?_lines b).symm

/-! ## Created or reported -/

theorem count_create_groupLines {n name : String} (h : n ∈ groups.names) :
    (groupLines groups n).count (.create name) = if n = name then 1 else 0 := by
  obtain ⟨g, hg⟩ := Table.mem_names.1 h
  have hrest : Line.create name ∉ (Block.group n g).properties := by
    simp [Block.properties, Block.settings, Block.decorations]
  simp only [groupLines, hg, Block.lines, List.count_cons]
  rw [List.count_eq_zero.2 hrest]
  simp

/-- A group is created as often as the order has it. -/
theorem count_create (players : Table Player) {order : List String}
    (hdef : ∀ n ∈ order, n ∈ groups.names) (name : String) :
    (Script.of players groups order).lines.count (.create name) = order.count name := by
  rw [lines_of, List.count_append, List.count_eq_zero.2 create_not_mem_players, Nat.zero_add]
  induction order with
  | nil => rfl
  | cons n order ih =>
    rw [List.flatMap_cons, List.count_append, count_create_groupLines (hdef n (by simp)),
      ih fun m hm => hdef m (by simp [hm]), List.count_cons, Nat.add_comm]
    simp

/-- The warning says that the group is left out. -/
def Warning.leavesOut (name : String) (w : Warning) : Bool :=
  w.kind == .unreachableGroup && w.entity == name

theorem countP_leavesOut_report (r : Roster) (name : String) :
    (r.report.warnings.drop r.warnings.length).countP (Warning.leavesOut name) =
      ((leftOut r.groups).map Prod.fst).count name := by
  have hmultiple : (multipleParents r.groups).countP (Warning.leavesOut name) = 0 := by
    rw [List.countP_eq_zero]
    intro w hw
    obtain ⟨e, -, rfl⟩ := List.mem_map.1 hw
    simp [Warning.leavesOut, Warning.kind]
  have hscript : r.report.script.warnings.countP (Warning.leavesOut name) = 0 := by
    rw [List.countP_eq_zero]
    intro w hw
    obtain ⟨b, -, hw⟩ := List.mem_flatMap.1 hw
    obtain ⟨e, -, rfl⟩ := List.mem_map.1 hw
    simp [Warning.leavesOut, Warning.kind]
  have hreport : r.report.warnings =
      r.warnings ++ ((resolve r.groups).warnings ++ r.report.script.warnings) :=
    List.append_assoc ..
  rw [hreport, List.drop_left, warnings_resolve, List.countP_append, List.countP_append, hmultiple,
    hscript, List.countP_map, List.count_eq_countP, List.countP_map, Nat.zero_add, Nat.add_zero]
  rfl

/-- The warnings of a report are, in order: those of reading; one for each
group with several parents, in order or not; one for each group left out,
which has a parent to name; and one for each line that sets a reserved key.
Each group of the table is created or reported, and that once. -/
theorem warnings_report (r : Roster) :
    r.report.warnings =
        r.warnings ++
          ((r.groups.toList.filter fun e => 1 < e.2.parents.length).map fun e =>
            .multipleParents e.1 e.2.parents) ++
          ((leftOut r.groups).map fun e => .unreachableGroup e.1 e.2.primaryParent) ++
          r.report.script.lines.filterMap Line.warning? ∧
      (∀ e ∈ leftOut r.groups, ∃ parent, e.2.primaryParent = some parent) ∧
      (∀ name, r.report.script.lines.count (.create name) +
          (r.report.warnings.drop r.warnings.length).countP (Warning.leavesOut name) =
        if name ∈ r.groups.names then 1 else 0) ∧
      r.report.tally.warnings = [] := by
  refine ⟨?_, fun e he => primaryParent_of_mem_leftOut he, fun name => ?_, rfl⟩
  · have hreport : r.report.warnings =
        r.warnings ++ (resolve r.groups).warnings ++ r.report.script.warnings := rfl
    rw [hreport, warnings_resolve, warnings_script, ← List.append_assoc]
    rfl
  · have hcreate : r.report.script.lines.count (.create name) =
        (resolve r.groups).order.count name :=
      count_create r.players (fun n hn => mem_names_of_mem_order hn) name
    rw [hcreate, countP_leavesOut_report, ← List.count_append,
      (perm_order_leftOut r.groups).count_eq, r.groups.nodup_names.count]

end PermScript

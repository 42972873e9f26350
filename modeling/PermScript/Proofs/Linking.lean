/-
What joining a player to groups does to their table: `names_link` and
`get?_link` give the names and what is found under each of them,
`warnings_link` the groups that were missing. `link_conserves` has the whole
table and says that no membership is lost: each becomes a member or a
warning.
-/
import Mathlib.Algebra.Ring.Nat
import PermScript.Membership
import PermScript.Proofs.Table

namespace PermScript

/-! ## Members -/

/-- Adds players at the end of a group's members. -/
def Group.joinAll (players : List String) (g : Group) : Group :=
  { g with members := g.members ++ players }

@[simp] theorem Group.joinAll_nil (g : Group) : g.joinAll [] = g := by
  rw [Group.joinAll, List.append_nil]

theorem Group.joinAll_joinAll (players more : List String) (g : Group) :
    (g.joinAll players).joinAll more = g.joinAll (players ++ more) := by
  simp only [Group.joinAll, List.append_assoc]

/-! ## Joining -/

@[simp] theorem names_link (player : String) (names : List String) (t : Table Group) :
    (link player names t).1.names = t.names := by
  induction names generalizing t with
  | nil => rfl
  | cons name names ih =>
    rw [link]
    split
    · rw [ih, Table.names_modify]
    · exact ih t

/-- A group has the player added as often as it is named. -/
theorem get?_link (player : String) (names : List String) (t : Table Group) (n : String) :
    (link player names t).1.get? n =
      (t.get? n).map (Group.joinAll (List.replicate (names.count n) player)) := by
  induction names generalizing t with
  | nil =>
    rw [link, List.count_nil, List.replicate_zero]
    cases t.get? n <;> simp
  | cons name names ih =>
    rw [link]
    by_cases hn : n = name
    · subst hn
      rw [List.count_cons_self, List.replicate_succ]
      split
      · rw [ih, Table.get?_modify, if_pos rfl, Option.map_map]
        congr 1
        funext g
        exact Group.joinAll_joinAll [player] _ g
      · rename_i hc
        have hnone : t.get? n = none := Table.get?_eq_none.2 (mt Table.contains_iff.2 hc)
        rw [ih, hnone]
        rfl
    · rw [List.count_cons_of_ne (Ne.symm hn)]
      split
      · rw [ih, Table.get?_modify, if_neg hn]
      · exact ih t

/-- There is a warning for each name that no group has. -/
theorem warnings_link (player : String) (names : List String) (t : Table Group) :
    (link player names t).2 =
      (names.filter fun name => name ∉ t.names).map (.missingGroup player) := by
  induction names generalizing t with
  | nil => rfl
  | cons name names ih =>
    rw [link]
    split
    · rename_i hc
      rw [ih, Table.names_modify, List.filter_cons_of_neg (by simp [Table.contains_iff.1 hc])]
    · rename_i hc
      rw [List.filter_cons_of_pos (by simpa using mt Table.contains_iff.2 hc), List.map_cons, ← ih]

/-- The table has its groups where they were, each with the new members. -/
theorem toList_link (player : String) (names : List String) (t : Table Group) :
    (link player names t).1.toList =
      t.toList.map fun e => (e.1, e.2.joinAll (List.replicate (names.count e.1) player)) := by
  rw [Table.toList_eq_filterMap, names_link, t.toList_eq_filterMap, List.map_filterMap]
  refine List.filterMap_congr fun name _ => ?_
  rw [get?_link]
  cases t.get? name <;> rfl

/-! ## Counting memberships -/

/-- The number of memberships in the groups of a table. -/
def memberships (t : Table Group) : Nat := (t.toList.map fun e => e.2.members.length).sum

theorem sum_members_join {entries : List (String × Group)} (hnd : (entries.map Prod.fst).Nodup)
    {name : String} (h : name ∈ entries.map Prod.fst) (player : String) :
    ((entries.map fun e => if e.1 = name then (e.1, e.2.join player) else e).map
        fun e => e.2.members.length).sum = (entries.map fun e => e.2.members.length).sum + 1 := by
  induction entries with
  | nil => cases h
  | cons e entries ih =>
    obtain ⟨hne, hnd⟩ := List.nodup_cons.1 hnd
    simp only [List.map_cons, List.sum_cons]
    by_cases he : e.1 = name
    · -- no other entry has the name
      have hrest : (entries.map fun e => if e.1 = name then (e.1, e.2.join player) else e) =
          entries := by
        refine (List.map_congr_left fun f hf => ?_).trans (List.map_id _)
        have hf' : f.1 ∈ entries.map Prod.fst := List.mem_map_of_mem hf
        exact if_neg fun hfn : f.1 = name => hne (he.trans hfn.symm ▸ hf')
      rw [if_pos he, hrest, Group.join, List.length_append, List.length_singleton]
      omega
    · have hmem : name ∈ entries.map Prod.fst := by
        rcases List.mem_cons.1 h with hname | hname
        · exact absurd hname.symm he
        · exact hname
      rw [if_neg he, ih hnd hmem]
      omega

/-- To join a group is one membership more. -/
theorem memberships_join {t : Table Group} {name : String} (h : name ∈ t.names) (player : String) :
    memberships (t.modify name (Group.join player)) = memberships t + 1 := by
  rw [memberships, Table.toList_modify]
  exact sum_members_join t.nodup_names h player

theorem length_warnings_add_memberships (player : String) (names : List String) (t : Table Group) :
    (link player names t).2.length + memberships (link player names t).1 =
      memberships t + names.length := by
  induction names generalizing t with
  | nil => simp [link]
  | cons name names ih =>
    rw [link]
    split
    · rename_i hc
      rw [ih, memberships_join (Table.contains_iff.1 hc), List.length_cons]
      omega
    · rw [List.length_cons, List.length_cons, Nat.add_right_comm, ih]
      omega

/-- Joining a player to groups adds it at the end of the members of each, as
often as the group is named, and changes nothing else of the table. Of the
names that no group has, each gives a warning every time it comes; so all
memberships are accounted for. -/
theorem link_conserves (player : String) (names : List String) (t : Table Group) :
    (link player names t).1.toList = (t.toList.map fun e =>
        (e.1, { e.2 with members := e.2.members ++ List.replicate (names.count e.1) player })) ∧
      (link player names t).2 =
        (names.filter fun name => name ∉ t.names).map (.missingGroup player) ∧
      (link player names t).2.length + memberships (link player names t).1 =
        memberships t + names.length := by
  refine ⟨?_, warnings_link player names t, length_warnings_add_memberships player names t⟩
  rw [toList_link]
  rfl

end PermScript

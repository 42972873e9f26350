/-
The beginning of the order: the groups whose line of placements leads to a
group without parents, level by level.

`level` says which groups are a given number of placements away from such a
root, and in which order. A walk takes the queue of one level to the queue
of the next (`walk_roots_eq_walk_level`), so that the walk from the roots
puts out the levels one after the other; no group is at two levels
(`level_unique`), and there are no more levels than groups. What adoption
adds comes after that and is not of these groups (`order_eq_levels`).
-/
import Mathlib.Data.List.Nodup
import Mathlib.Data.List.Perm.Subperm
import PermScript.Proofs.ByteOrder
import PermScript.Proofs.Warnings

namespace PermScript

variable {groups : Table Group}

/-! ## Levels -/

/-- The line of placements of the group leads to a group without parents. -/
inductive Rooted (groups : Table Group) : String → Prop
  | root {name : String} {g : Group} (hg : groups.get? name = some g) (hr : g.parents = []) :
      Rooted groups name
  | placed {name parent : String} {g : Group} (hg : groups.get? name = some g)
      (hp : placement groups g = some parent) (h : Rooted groups parent) : Rooted groups name

/-- The groups placed under a parent, sorted by the bytes of their names. -/
def placedUnder (groups : Table Group) (parent : String) : List String :=
  ((groups.toList.filter fun e => placement groups e.2 = some parent).map Prod.fst).mergeSort
    fun a b => decide (bytesOf a ≤ bytesOf b)

/-- The groups at a level: the groups without parents in table order, then
for each group of the level before the groups placed under it. -/
def level (groups : Table Group) : Nat → List String
  | 0 => (groups.toList.filter fun e => e.2.parents = []).map Prod.fst
  | k + 1 => (level groups k).flatMap (placedUnder groups)

/-- The groups at the first levels, level by level. -/
def levels (groups : Table Group) (k : Nat) : List String := (List.range k).flatMap (level groups)

theorem level_zero (groups : Table Group) : level groups 0 = roots groups := by
  rw [level, roots]
  congr 2
  funext e
  cases e.2.parents <;> rfl

theorem levels_succ (groups : Table Group) (k : Nat) :
    levels groups (k + 1) = levels groups k ++ level groups k := by
  rw [levels, List.range_succ, List.flatMap_append, List.flatMap_singleton, levels]

theorem mem_levels {k : Nat} {name : String} :
    name ∈ levels groups k ↔ ∃ j < k, name ∈ level groups j := by
  simp [levels]

theorem getD_childrenIndex_eq_placedUnder (groups : Table Group) (parent : String) :
    (childrenIndex groups).getD parent [] = placedUnder groups parent := by
  simp only [getD_childrenIndex, placedUnder, childrenOf, placements, bytesOf_le_iff]
  congr 1
  induction groups.toList with
  | nil => rfl
  | cons e es ih =>
    rw [List.filterMap_cons, List.filter_cons]
    cases placement groups e.2 with
    | none => simpa using ih
    | some p =>
      by_cases hp : p = parent
      · simp [hp, ih]
      · simp [hp, ih]

theorem mem_placedUnder {parent name : String} :
    name ∈ placedUnder groups parent ↔
      ∃ g, groups.get? name = some g ∧ placement groups g = some parent := by
  rw [← getD_childrenIndex_eq_placedUnder, mem_childrenIndex]

theorem nodup_placedUnder (groups : Table Group) (parent : String) :
    (placedUnder groups parent).Nodup := by
  refine (List.mergeSort_perm _ _).nodup_iff.2 ?_
  exact groups.nodup_names.sublist (List.filter_sublist.map _)

theorem mem_level_zero {name : String} :
    name ∈ level groups 0 ↔ ∃ g, groups.get? name = some g ∧ g.parents = [] := by
  rw [level_zero, mem_roots]

theorem mem_level_succ {k : Nat} {name : String} :
    name ∈ level groups (k + 1) ↔
      ∃ g parent, groups.get? name = some g ∧ placement groups g = some parent ∧
        parent ∈ level groups k := by
  simp only [level, List.mem_flatMap, mem_placedUnder]
  constructor
  · rintro ⟨parent, hparent, g, hg, hp⟩
    exact ⟨g, parent, hg, hp, hparent⟩
  · rintro ⟨g, parent, hg, hp, hparent⟩
    exact ⟨parent, hparent, g, hg, hp⟩

theorem not_mem_level_zero {k : Nat} {name : String} (h : name ∈ level groups (k + 1)) :
    name ∉ level groups 0 := by
  obtain ⟨g, parent, hg, hp, -⟩ := mem_level_succ.1 h
  rw [level_zero]
  exact not_mem_roots hg hp

/-- No group is at two levels: its line of placements has one length. -/
theorem level_unique {j k : Nat} {name : String} (hj : name ∈ level groups j)
    (hk : name ∈ level groups k) : j = k := by
  induction j generalizing k name with
  | zero =>
    cases k with
    | zero => rfl
    | succ k => exact absurd hj (not_mem_level_zero hk)
  | succ j ih =>
    cases k with
    | zero => exact absurd hk (not_mem_level_zero hj)
    | succ k =>
      obtain ⟨g, parent, hg, hp, hparent⟩ := mem_level_succ.1 hj
      obtain ⟨g', parent', hg', hp', hparent'⟩ := mem_level_succ.1 hk
      obtain rfl : g = g' := Option.some.inj (hg.symm.trans hg')
      obtain rfl : parent = parent' := Option.some.inj (hp.symm.trans hp')
      rw [ih hparent hparent']

theorem nodup_level (groups : Table Group) (k : Nat) : (level groups k).Nodup := by
  induction k with
  | zero => exact groups.nodup_names.sublist (List.filter_sublist.map _)
  | succ k ih =>
    rw [level, List.nodup_flatMap]
    refine ⟨fun parent _ => nodup_placedUnder groups parent, ih.imp fun {a b} hab => ?_⟩
    intro name ha hb
    obtain ⟨g, hg, hp⟩ := mem_placedUnder.1 ha
    obtain ⟨g', hg', hp'⟩ := mem_placedUnder.1 hb
    obtain rfl : g = g' := Option.some.inj (hg.symm.trans hg')
    exact hab (Option.some.inj (hp.symm.trans hp'))

theorem not_mem_levels {k : Nat} {name : String} (h : name ∈ level groups k) :
    name ∉ levels groups k := by
  intro hm
  obtain ⟨j, hj, hlevel⟩ := mem_levels.1 hm
  exact Nat.ne_of_lt hj (level_unique hlevel h)

theorem nodup_levels (groups : Table Group) (k : Nat) : (levels groups k).Nodup := by
  induction k with
  | zero => exact List.nodup_nil
  | succ k ih =>
    rw [levels_succ]
    refine List.nodup_append.2 ⟨ih, nodup_level groups k, ?_⟩
    rintro a ha b hb rfl
    exact not_mem_levels hb ha

theorem mem_names_of_mem_level {k : Nat} {name : String} (h : name ∈ level groups k) :
    name ∈ groups.names := by
  cases k with
  | zero =>
    obtain ⟨g, hg, -⟩ := mem_level_zero.1 h
    exact Table.mem_names_of_get? hg
  | succ k =>
    obtain ⟨g, parent, hg, -⟩ := mem_level_succ.1 h
    exact Table.mem_names_of_get? hg

theorem le_length_levels {k : Nat} (h : level groups k ≠ []) :
    k + 1 ≤ (levels groups (k + 1)).length := by
  induction k with
  | zero =>
    rw [levels_succ, List.length_append]
    have := List.length_pos_iff.2 h
    omega
  | succ k ih =>
    -- A level has groups only if the one before has.
    have hbefore : level groups k ≠ [] := by
      intro hnil
      rw [level, hnil] at h
      exact h rfl
    have := ih hbefore
    have := List.length_pos_iff.2 h
    rw [levels_succ, List.length_append]
    omega

/-- There are no more levels than groups. -/
theorem level_size (groups : Table Group) : level groups groups.size = [] := by
  by_contra h
  -- With a group at each level so far, the levels hold more groups than there are.
  have hsub : levels groups (groups.size + 1) ⊆ groups.names := by
    intro name hname
    obtain ⟨j, -, hj⟩ := mem_levels.1 hname
    exact mem_names_of_mem_level hj
  have hle := ((nodup_levels groups (groups.size + 1)).subperm hsub).length_le
  have hlt := le_length_levels h
  rw [Table.length_names] at hle
  omega

theorem level_eq_nil {k : Nat} (h : groups.size ≤ k) : level groups k = [] := by
  induction h with
  | refl => exact level_size groups
  | step _ ih => rw [level, ih, List.flatMap_nil]

theorem rooted_iff_mem_level {name : String} : Rooted groups name ↔ ∃ k, name ∈ level groups k := by
  constructor
  · intro h
    induction h with
    | root hg hr => exact ⟨0, mem_level_zero.2 ⟨_, hg, hr⟩⟩
    | placed hg hp _ ih =>
      obtain ⟨k, hk⟩ := ih
      exact ⟨k + 1, mem_level_succ.2 ⟨_, _, hg, hp, hk⟩⟩
  · rintro ⟨k, hk⟩
    induction k generalizing name with
    | zero =>
      obtain ⟨g, hg, hr⟩ := mem_level_zero.1 hk
      exact .root hg hr
    | succ k ih =>
      obtain ⟨g, parent, hg, hp, hparent⟩ := mem_level_succ.1 hk
      exact .placed hg hp (ih hparent)

theorem mem_levels_size {name : String} :
    name ∈ levels groups groups.size ↔ Rooted groups name := by
  rw [mem_levels, rooted_iff_mem_level]
  constructor
  · rintro ⟨k, -, hk⟩
    exact ⟨k, hk⟩
  · rintro ⟨k, hk⟩
    refine ⟨k, Nat.lt_of_not_le fun hle => ?_, hk⟩
    rw [level_eq_nil hle] at hk
    cases hk

/-! ## The walk through the levels -/

/-- The walk after the first levels. -/
def levelWalk (groups : Table Group) (k : Nat) : Walk := (levels groups k).foldl Walk.visit {}

theorem grows_levelWalk (groups : Table Group) (k : Nat) :
    ({} : Walk).Grows (levelWalk groups k) (levels groups k) :=
  grows_foldl_visit (nodup_levels groups k) (by simp)

/-- A walk that has visited the first levels and has the next one in its
queue is the walk from the roots. -/
theorem walk_roots_eq_walk_level (groups : Table Group) (k : Nat) :
    walk (childrenIndex groups) (roots groups) {} =
      walk (childrenIndex groups) (level groups k) (levelWalk groups k) := by
  induction k with
  | zero => rw [level_zero]; rfl
  | succ k ih =>
    have hfresh : ∀ name ∈ level groups k, (levelWalk groups k).seen.contains name = false := by
      intro name hname
      rw [← Bool.not_eq_true, (grows_levelWalk groups k).contains_iff]
      simpa using not_mem_levels hname
    have hvisit : (level groups k).foldl Walk.visit (levelWalk groups k) =
        levelWalk groups (k + 1) := by
      rw [levelWalk, levelWalk, levels_succ, List.foldl_append]
    have hnext : ((level groups k).flatMap fun name => (childrenIndex groups).getD name []) =
        level groups (k + 1) := by
      simp only [getD_childrenIndex_eq_placedUnder, level]
    -- The queue is visited as it stands, and what it leaves behind it is the next level.
    have hstep := walk_append (childrenIndex groups) (nodup_level groups k) hfresh []
    rwa [List.append_nil, List.nil_append, hvisit, hnext, ← ih] at hstep

theorem walk_roots (groups : Table Group) :
    walk (childrenIndex groups) (roots groups) {} = levelWalk groups groups.size := by
  rw [walk_roots_eq_walk_level groups groups.size, level_size, walk]

/-! ## The order -/

/-- The order is the levels, then groups that are not rooted. -/
theorem order_eq_levels_append (groups : Table Group) :
    ∃ adopted, (resolve groups).order = levels groups groups.size ++ adopted ∧
      ∀ name ∈ adopted, ¬ Rooted groups name := by
  obtain ⟨adopted, hgrows⟩ := grows_adopt groups (childrenIndex groups)
    (levelWalk groups groups.size)
  refine ⟨adopted, ?_, fun name hname hroot => ?_⟩
  · rw [resolve, fullWalk, walk_roots, hgrows.order_eq,
      (grows_levelWalk groups groups.size).order_eq]
    rfl
  · have hseen : (levelWalk groups groups.size).seen.contains name = true :=
      ((grows_levelWalk groups groups.size).contains_iff name).2 (.inr (mem_levels_size.2 hroot))
    rw [hgrows.fresh name hname] at hseen
    cases hseen

theorem order_levelWalk (groups : Table Group) (k : Nat) :
    (levelWalk groups k).order = levels groups k := (grows_levelWalk groups k).order_eq

theorem Rooted.placement_sublist {name parent : String} {g : Group} (h : Rooted groups name)
    (hg : groups.get? name = some g) (hp : placement groups g = some parent) :
    [parent, name].Sublist (levels groups groups.size) := by
  have hseen : (levelWalk groups groups.size).seen.contains name = true :=
    ((grows_levelWalk groups groups.size).contains_iff name).2 (.inr (mem_levels_size.2 h))
  rw [← walk_roots] at hseen
  have hpair := parent_sublist_walk hg hp hseen (by simp) (not_mem_roots hg hp)
  rwa [walk_roots, order_levelWalk] at hpair

theorem leftOut_eq_nil (h : ∀ name ∈ groups.names, Rooted groups name) : leftOut groups = [] := by
  obtain ⟨adopted, horder, -⟩ := order_eq_levels_append groups
  refine List.eq_nil_iff_forall_not_mem.2 fun e he => ?_
  obtain ⟨hg, hn⟩ := mem_leftOut.1 he
  have hroot := mem_levels_size.2 (h e.1 (Table.mem_names_of_get? hg))
  rw [horder] at hn
  exact hn (List.mem_append_left _ hroot)

/-- The order begins with the rooted groups, level by level, and has no
other group before one of them; each of them that is no root comes after
the group it is placed under. Where all groups are rooted, the order is that
of the whole table and none is reported as unreachable. -/
theorem order_eq_levels (groups : Table Group) :
    (∃ adopted, (resolve groups).order = levels groups groups.size ++ adopted ∧
        (∀ name, name ∈ levels groups groups.size ↔ Rooted groups name) ∧
        ∀ name ∈ adopted, ¬ Rooted groups name) ∧
      (∀ name parent g, Rooted groups name → groups.get? name = some g →
        placement groups g = some parent → [parent, name].Sublist (resolve groups).order) ∧
      ((∀ name ∈ groups.names, Rooted groups name) →
        (resolve groups).order.Perm groups.names ∧
          ∀ w ∈ (resolve groups).warnings, w.kind ≠ .unreachableGroup) := by
  obtain ⟨adopted, horder, hadopted⟩ := order_eq_levels_append groups
  refine ⟨⟨adopted, horder, fun name => mem_levels_size, hadopted⟩, ?_, fun hall => ?_⟩
  · intro name parent g hroot hg hp
    rw [horder]
    exact (hroot.placement_sublist hg hp).trans (List.sublist_append_left _ _)
  · have hnone := leftOut_eq_nil hall
    constructor
    · simpa [hnone] using perm_order_leftOut groups
    · intro w hw
      rw [warnings_resolve, hnone, List.map_nil, List.append_nil, multipleParents,
        List.mem_map] at hw
      obtain ⟨e, -, rfl⟩ := hw
      simp [Warning.kind]

/-! ## A table of rooted groups -/

/-- The group that does not find its first parent. -/
def groveLeaf : Group := { parents := ["ghost", "trunk"] }

/-- Both other groups are placed under `trunk`. -/
def grove : Table Group :=
  .ofList [("leaf", groveLeaf), ("trunk", {}), ("bud", { parents := ["trunk"] })]

theorem toList_grove :
    grove.toList = [("leaf", groveLeaf), ("trunk", {}), ("bud", { parents := ["trunk"] })] :=
  Table.toList_ofList (by decide)

theorem get?_grove {name : String} {g : Group} :
    grove.get? name = some g ↔
      name = "leaf" ∧ g = groveLeaf ∨ name = "trunk" ∧ g = {} ∨
        name = "bud" ∧ g = { parents := ["trunk"] } := by
  simp [Table.get?_eq_some, toList_grove]

theorem placement_groveLeaf : placement grove groveLeaf = some "trunk" := by
  simp [placement_eq_find?, Table.names, toList_grove, groveLeaf]

theorem rooted_grove : ∀ name ∈ grove.names, Rooted grove name := by
  have htrunk : Rooted grove "trunk" := .root (get?_grove.2 (.inr (.inl ⟨rfl, rfl⟩))) rfl
  intro name hname
  obtain ⟨g, hg⟩ := Table.mem_names.1 hname
  rcases get?_grove.1 hg with ⟨rfl, rfl⟩ | ⟨rfl, rfl⟩ | ⟨rfl, rfl⟩
  · exact .placed hg placement_groveLeaf htrunk
  · exact htrunk
  · refine .placed hg ?_ htrunk
    simp [placement_eq_find?, Table.names, toList_grove]

/-- All of it is in the order, `leaf` after `trunk`. -/
theorem order_grove :
    (∀ name ∈ grove.names, Rooted grove name) ∧
      ["trunk", "leaf"].Sublist (resolve grove).order ∧
      (resolve grove).order.Perm grove.names ∧
      ∀ w ∈ (resolve grove).warnings, w.kind ≠ .unreachableGroup := by
  obtain ⟨-, hafter, hall⟩ := order_eq_levels grove
  have hleaf : grove.get? "leaf" = some groveLeaf := get?_grove.2 (.inl ⟨rfl, rfl⟩)
  have hroot : Rooted grove "leaf" := rooted_grove "leaf" (Table.mem_names_of_get? hleaf)
  exact ⟨rooted_grove, hafter "leaf" "trunk" groveLeaf hroot hleaf placement_groveLeaf,
    hall rooted_grove⟩

end PermScript

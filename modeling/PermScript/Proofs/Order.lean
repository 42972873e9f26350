/-
The order of the groups as a set: the groups that a line of declared parents
joins to a group without parents, each once, and no other name.

A walk follows one parent of each group only; that the order is complete for
all declared parents is the work of the adoption rounds, which end when no
group is left that a parent could adopt (`adoptable_fullWalk`).
-/
import Mathlib.Order.Bounds.Basic
import PermScript.Proofs.Table
import PermScript.Proofs.Walk

namespace PermScript

variable {groups : Table Group}

/-! ## Who is placed, a root or adoptable -/

theorem mem_childrenOf {placed : List (String × String)} {parent n : String} :
    n ∈ childrenOf placed parent ↔ (parent, n) ∈ placed := by
  simp [childrenOf, List.mem_mergeSort]

theorem mem_placements {parent n : String} :
    (parent, n) ∈ placements groups ↔
      ∃ g, groups.get? n = some g ∧ placement groups g = some parent := by
  simp only [placements, List.mem_filterMap, Option.map_eq_some_iff, Prod.mk.injEq,
    Table.get?_eq_some]
  constructor
  · rintro ⟨⟨m, g⟩, he, p, hp, rfl, rfl⟩
    exact ⟨g, he, hp⟩
  · rintro ⟨g, he, hp⟩
    exact ⟨(n, g), he, parent, hp, rfl, rfl⟩

theorem placement_eq_find? (groups : Table Group) (g : Group) :
    placement groups g = g.parents.find? fun n => decide (n ∈ groups.names) := by
  rw [placement]
  congr 1
  funext n
  rw [Bool.eq_iff_iff, Table.contains_iff, decide_eq_true_iff]

theorem placement_eq_none {g : Group} (h : g.parents = []) : placement groups g = none := by
  rw [placement, h, List.find?_nil]

theorem mem_names_of_placement {g : Group} {parent : String}
    (h : placement groups g = some parent) : parent ∈ groups.names :=
  Table.contains_iff.1 (List.find?_some h)

theorem mem_parents_of_placement {g : Group} {parent : String}
    (h : placement groups g = some parent) : parent ∈ g.parents :=
  List.mem_of_find?_eq_some h

/-- The index has under each name what the placements say. -/
theorem getD_childrenIndex (groups : Table Group) (parent : String) :
    (childrenIndex groups).getD parent [] = childrenOf (placements groups) parent := by
  by_cases hp : parent ∈ groups.names
  · have hd : (groups.names.map fun m => (m, childrenOf (placements groups) m)).Pairwise
        fun a b => (a.1 == b.1) = false := by
      rw [List.pairwise_map]
      refine groups.nodup_names.imp ?_
      intro a b hab
      exact beq_eq_false_iff_ne.2 hab
    have hm : (parent, childrenOf (placements groups) parent) ∈
        groups.names.map fun m => (m, childrenOf (placements groups) m) := List.mem_map_of_mem hp
    exact Std.HashMap.getD_ofList_of_mem (beq_self_eq_true parent) hd hm
  · have hc : ((groups.names.map fun m => (m, childrenOf (placements groups) m)).map
        Prod.fst).contains parent = false := by
      simpa using hp
    have hnil : childrenOf (placements groups) parent = [] := by
      refine List.eq_nil_iff_forall_not_mem.2 fun n hn => ?_
      obtain ⟨g, -, hg⟩ := mem_placements.1 (mem_childrenOf.1 hn)
      exact hp (mem_names_of_placement hg)
    rw [hnil]
    exact Std.HashMap.getD_ofList_of_contains_eq_false hc

theorem mem_childrenIndex {parent n : String} :
    n ∈ (childrenIndex groups).getD parent [] ↔
      ∃ g, groups.get? n = some g ∧ placement groups g = some parent := by
  rw [getD_childrenIndex, mem_childrenOf, mem_placements]

theorem mem_roots {n : String} :
    n ∈ roots groups ↔ ∃ g, groups.get? n = some g ∧ g.parents = [] := by
  simp only [roots, List.mem_map, List.mem_filter, List.isEmpty_iff, Table.get?_eq_some]
  constructor
  · rintro ⟨⟨m, g⟩, ⟨he, hg⟩, rfl⟩
    exact ⟨g, he, hg⟩
  · rintro ⟨g, he, hg⟩
    exact ⟨(n, g), ⟨he, hg⟩, rfl⟩

theorem mem_adoptable {seen : Std.HashSet String} {n : String} :
    n ∈ adoptable groups seen ↔ seen.contains n = false ∧
      ∃ g, groups.get? n = some g ∧ ∃ parent ∈ g.parents, seen.contains parent = true := by
  simp only [adoptable, List.mem_map, List.mem_filter, Bool.and_eq_true, Bool.not_eq_true',
    List.any_eq_true, Table.get?_eq_some]
  constructor
  · rintro ⟨⟨m, g⟩, ⟨he, hs, hp⟩, rfl⟩
    exact ⟨hs, g, he, hp⟩
  · rintro ⟨hs, g, he, hp⟩
    exact ⟨(n, g), ⟨he, hs, hp⟩, rfl⟩

/-- There is no group to adopt if every group with a seen parent was seen. -/
theorem adoptable_eq_nil_iff {seen : Std.HashSet String} :
    adoptable groups seen = [] ↔ ∀ name g, groups.get? name = some g →
      seen.contains name = false → ∀ parent ∈ g.parents, seen.contains parent = false := by
  rw [List.eq_nil_iff_forall_not_mem]
  constructor
  · intro h name g hg hu parent hp
    refine Bool.eq_false_of_not_eq_true fun hseen => h name ?_
    exact mem_adoptable.2 ⟨hu, g, hg, parent, hp, hseen⟩
  · intro h name hname
    obtain ⟨hu, g, hg, parent, hp, hseen⟩ := mem_adoptable.1 hname
    rw [h name g hg hu parent hp] at hseen
    cases hseen

section

variable {n : String} {g : Group} (hg : groups.get? n = some g)
include hg

theorem mem_childrenIndex_of_get? {parent : String} :
    n ∈ (childrenIndex groups).getD parent [] ↔ placement groups g = some parent := by
  simp [mem_childrenIndex, hg]

theorem mem_roots_of_get? : n ∈ roots groups ↔ g.parents = [] := by
  simp [mem_roots, hg]

/-- A group that is placed under another is no root. -/
theorem not_mem_roots {parent : String} (hpl : placement groups g = some parent) :
    n ∉ roots groups := by
  rw [mem_roots_of_get? hg]
  intro hr
  rw [placement_eq_none hr] at hpl
  cases hpl

theorem mem_adoptable_of_get? {seen : Std.HashSet String} :
    n ∈ adoptable groups seen ↔
      seen.contains n = false ∧ ∃ parent ∈ g.parents, seen.contains parent = true := by
  simp [mem_adoptable, hg]

end

/-- The adopted groups stand in table order. -/
theorem adoptable_sublist (seen : Std.HashSet String) :
    (adoptable groups seen).Sublist groups.names :=
  List.filter_sublist.map _

/-! ## The whole run -/

theorem adopt_of_nil {children : Children} {w : Walk} (h : adoptable groups w.seen = []) :
    adopt groups children w = w := by
  rw [adopt]
  split
  · rfl
  · rename_i hc
    rw [h] at hc
    cases hc

theorem adopt_step {children : Children} {w : Walk} (h : adoptable groups w.seen ≠ []) :
    adopt groups children w =
      adopt groups children (walk children (adoptable groups w.seen) w) := by
  rw [adopt]
  split
  · rename_i hn
    exact absurd hn h
  · rename_i hc
    rw [hc]

/-- What one round of adoption preserves holds after all of them. -/
theorem adopt_induct {P : Walk → Prop} {children : Children}
    (hstep : ∀ w, P w → P (walk children (adoptable groups w.seen) w)) {w : Walk} (hw : P w) :
    P (adopt groups children w) := by
  fun_induction adopt groups children w with
  | case1 w _ => exact hw
  | case2 w name queue hq ih => exact ih (hq ▸ hstep w hw)

theorem fullWalk_induct {P : Walk → Prop}
    (hroots : P (walk (childrenIndex groups) (roots groups) {}))
    (hstep : ∀ w, P w → P (walk (childrenIndex groups) (adoptable groups w.seen) w)) :
    P (fullWalk groups) := adopt_induct hstep hroots

/-- In the end there is no group left to adopt. -/
theorem adoptable_adopt (groups : Table Group) (children : Children) (w : Walk) :
    adoptable groups (adopt groups children w).seen = [] := by
  fun_induction adopt groups children w with
  | case1 w h => exact h
  | case2 _ _ _ _ ih => exact ih

theorem adoptable_fullWalk (groups : Table Group) : adoptable groups (fullWalk groups).seen = [] :=
  adoptable_adopt ..

theorem grows_adopt (groups : Table Group) (children : Children) (w : Walk) :
    ∃ new, w.Grows (adopt groups children w) new := by
  refine adopt_induct (P := fun w' => ∃ new, w.Grows w' new) ?_ ⟨[], .refl w⟩
  rintro w' ⟨new, hnew⟩
  obtain ⟨more, hmore⟩ := grows_walk children (adoptable groups w'.seen) w'
  exact ⟨new ++ more, hnew.trans hmore⟩

theorem grows_fullWalk (groups : Table Group) :
    ({} : Walk).Grows (fullWalk groups) (resolve groups).order := by
  obtain ⟨new, hnew⟩ := grows_walk (childrenIndex groups) (roots groups) {}
  obtain ⟨more, hmore⟩ := grows_adopt groups (childrenIndex groups)
    (walk (childrenIndex groups) (roots groups) {})
  have hgrows : ({} : Walk).Grows (fullWalk groups) (new ++ more) := hnew.trans hmore
  have horder : (resolve groups).order = new ++ more := hgrows.order_eq
  rw [horder]
  exact hgrows

theorem nodup_order (groups : Table Group) : (resolve groups).order.Nodup :=
  (grows_fullWalk groups).nodup

/-- In the order are the names seen. -/
theorem mem_order {n : String} :
    n ∈ (resolve groups).order ↔ (fullWalk groups).seen.contains n = true := by
  simp [(grows_fullWalk groups).contains_iff]

/-! ## The least closed set -/

/-- A set of groups of the table with the parentless groups in it and with
every group one of whose declared parents is in it. -/
structure ParentClosed (groups : Table Group) (s : Set String) : Prop where
  defined : ∀ name ∈ s, name ∈ groups.names
  root : ∀ name g, groups.get? name = some g → g.parents = [] → name ∈ s
  child : ∀ name g, groups.get? name = some g → ∀ parent ∈ g.parents, parent ∈ s → name ∈ s

/-- All that is seen is in every closed set. -/
theorem ParentClosed.mem_of_contains {s : Set String} (hs : ParentClosed groups s) {n : String}
    (hn : (fullWalk groups).seen.contains n = true) : n ∈ s := by
  have hplaced : ∀ parent m, parent ∈ s → m ∈ (childrenIndex groups).getD parent [] → m ∈ s := by
    intro parent m hp hm
    obtain ⟨g, hg, hpl⟩ := mem_childrenIndex.1 hm
    exact hs.child m g hg parent (mem_parents_of_placement hpl) hp
  have h : ∀ n, (fullWalk groups).seen.contains n = true → n ∈ s := by
    refine fullWalk_induct (P := fun w => ∀ n, w.seen.contains n = true → n ∈ s) ?_ ?_
    · intro m hm
      refine walk_induct _ hplaced (fun r hr => ?_) (fun r hr => ?_) hm
      · obtain ⟨g, hg, hroot⟩ := mem_roots.1 hr
        exact hs.root r g hg hroot
      · simp at hr
    · intro w hw m hm
      refine walk_induct _ hplaced (fun a ha => ?_) hw hm
      obtain ⟨-, g, hg, parent, hp, hseen⟩ := mem_adoptable.1 ha
      exact hs.child a g hg parent hp (hw parent hseen)
  exact h n hn

/-- What is seen in the end is closed. -/
theorem parentClosed_seen (groups : Table Group) :
    ParentClosed groups {n | (fullWalk groups).seen.contains n = true} where
  defined n hn := by
    refine ParentClosed.mem_of_contains (s := {m | m ∈ groups.names}) ⟨?_, ?_, ?_⟩ hn
    · exact fun m hm => hm
    · exact fun m g hg _ => Table.mem_names_of_get? hg
    · exact fun m g hg _ _ _ => Table.mem_names_of_get? hg
  root n g hg hr := by
    refine fullWalk_induct (P := fun w => w.seen.contains n = true) ?_ ?_
    · exact contains_walk_of_mem _ (mem_roots.2 ⟨g, hg, hr⟩)
    · exact fun w hw => contains_walk_of_contains hw
  child n g hg parent hp hseen := by
    refine Bool.eq_true_of_not_eq_false fun hu => ?_
    -- An unseen group with a seen parent would be left to adopt.
    have hunseen := adoptable_eq_nil_iff.1 (adoptable_fullWalk groups) n g hg hu parent hp
    exact absurd hseen (Bool.eq_false_iff.1 hunseen)

theorem mem_names_of_mem_order {n : String} (h : n ∈ (resolve groups).order) : n ∈ groups.names :=
  (parentClosed_seen groups).defined n (mem_order.1 h)

/-- The order holds, each once, the groups of the least set that has the
parentless groups in it and every group with a declared parent in it. -/
theorem isLeast_order (groups : Table Group) :
    (resolve groups).order.Nodup ∧
      IsLeast {s : Set String | ParentClosed groups s} {name | name ∈ (resolve groups).order} := by
  have hset : {name | name ∈ (resolve groups).order} =
      {n | (fullWalk groups).seen.contains n = true} := Set.ext fun n => mem_order
  rw [hset]
  refine ⟨nodup_order groups, parentClosed_seen groups, ?_⟩
  intro s hs n hn
  exact ParentClosed.mem_of_contains hs hn

end PermScript

/-
Every group of the order, roots apart, comes after a parent it declares.

A group gets into the order as a root, as the child of a group just visited
or by adoption, and an adopted group may come out as a child before its turn
in the queue. `Descends` holds of a walk however its queue was drawn up, as
long as the groups in it are roots or have a parent that was seen before
(`Descends.walk`); circular inheritance makes no difference.
-/
import PermScript.Proofs.Precedence

namespace PermScript

variable {groups : Table Group}

theorem mem_before_of_pair {α : Type} {a b : α} {before after : List α}
    (hnd : (before ++ b :: after).Nodup) (h : [a, b].Sublist (before ++ b :: after)) :
    a ∈ before := by
  obtain ⟨-, hb, hdisj⟩ := List.nodup_append.1 hnd
  have hafter : b ∉ after := (List.nodup_cons.1 hb).1
  rcases pair_sublist_append.1 h with h | ⟨ha, -⟩ | h
  · exact absurd rfl (hdisj b (mem_right_of_pair h) b List.mem_cons_self)
  · exact ha
  · cases h with
    | cons _ h => exact absurd (mem_right_of_pair h) hafter
    | cons_cons _ h => exact absurd (List.singleton_sublist.1 h) hafter

/-! ## Walks -/

/-- Each group of the walk that declares parents has one of them before it. -/
def Descends (groups : Table Group) (w : Walk) : Prop :=
  ∀ name ∈ w.order, ∀ g, groups.get? name = some g → g.parents ≠ [] →
    ∃ parent ∈ g.parents, [parent, name].Sublist w.order

/-- A walk from roots and from groups with a parent that was seen goes on
as it began. -/
theorem Descends.walk {queue : List String} {w : Walk} (h : Descends groups w)
    (hw : ({} : Walk).Grows w w.order)
    (hqueue : ∀ name ∈ queue, ∀ g, groups.get? name = some g → g.parents ≠ [] →
      ∃ parent ∈ g.parents, w.seen.contains parent = true) :
    Descends groups (walk (childrenIndex groups) queue w) := by
  obtain ⟨new, hnew⟩ := grows_walk (childrenIndex groups) queue w
  intro name hname g hg hp
  rw [hnew.order_eq, List.mem_append] at hname
  rcases hname with hold | hname
  · obtain ⟨parent, hparent, hpair⟩ := h name hold g hg hp
    rw [hnew.order_eq]
    exact ⟨parent, hparent, hpair.trans (List.sublist_append_left _ _)⟩
  by_cases hq : name ∈ queue
  · -- The parent was seen before the walk, the group is new in it.
    obtain ⟨parent, hparent, hseen⟩ := hqueue name hq g hg hp
    have hbefore : parent ∈ w.order := by
      simpa using (hw.contains_iff parent).1 hseen
    rw [hnew.order_eq]
    exact ⟨parent, hparent, pair_sublist_append.2 (.inr (.inl ⟨hbefore, hname⟩))⟩
  · obtain ⟨hseen, hunseen⟩ := (hnew.mem_new_iff name).1 hname
    obtain ⟨parent, hchild, hpair⟩ := walk_follows (childrenIndex groups) hseen hunseen hq
    have hpl := (mem_childrenIndex_of_get? hg).1 hchild
    exact ⟨parent, mem_parents_of_placement hpl, hpair⟩

theorem descends_roots (groups : Table Group) :
    Descends groups (walk (childrenIndex groups) (roots groups) {}) := by
  refine Descends.walk (fun name hname => by cases hname) (.refl {}) ?_
  intro name hname g hg hp
  exact absurd ((mem_roots_of_get? hg).1 hname) hp

theorem Descends.round {k : Nat} {w : Walk} (h : Descends groups w) (hk : AfterRounds groups k w) :
    Descends groups (PermScript.walk (childrenIndex groups) (adoptable groups w.seen) w) := by
  refine h.walk hk.grows fun name hname g hg _ => ?_
  exact ((mem_adoptable_of_get? hg).1 hname).2

theorem descends_fullWalk (groups : Table Group) : Descends groups (fullWalk groups) := by
  have h : ∃ k, AfterRounds groups k (fullWalk groups) ∧ Descends groups (fullWalk groups) := by
    refine fullWalk_induct (P := fun w => ∃ k, AfterRounds groups k w ∧ Descends groups w) ?_ ?_
    · exact ⟨0, .zero groups, descends_roots groups⟩
    · rintro w ⟨k, hk, hw⟩
      exact ⟨k + 1, hk.succ, hw.round hk⟩
  obtain ⟨-, -, hw⟩ := h
  exact hw

/-! ## The order -/

/-- A group of the order that declares parents has one of them among the
groups before it. -/
theorem exists_parent_before {before after : List String} {name : String} {g : Group}
    (horder : (resolve groups).order = before ++ name :: after)
    (hg : groups.get? name = some g) (hp : g.parents ≠ []) :
    ∃ parent ∈ g.parents, parent ∈ before := by
  have hname : name ∈ (resolve groups).order := by
    rw [horder]
    exact List.mem_append_right _ List.mem_cons_self
  obtain ⟨parent, hparent, hpair⟩ := descends_fullWalk groups name hname g hg hp
  have hpair' : [parent, name].Sublist (before ++ name :: after) := horder ▸ hpair
  exact ⟨parent, hparent, mem_before_of_pair (horder ▸ nodup_order groups) hpair'⟩

/-- A table with a circle: `X` is placed under `Y` and `Y` under `X`, but `X`
also declares `A`. -/
def looped : Table Group :=
  .ofList [("A", {}), ("X", { parents := ["Y", "A"] }), ("Y", { parents := ["X"] })]

theorem toList_looped : looped.toList =
    [("A", {}), ("X", { parents := ["Y", "A"] }), ("Y", { parents := ["X"] })] :=
  Table.toList_ofList (by decide)

theorem order_looped : (resolve looped).order = ["A", "X", "Y"] := by
  have hplaced : placements looped = [("Y", "X"), ("X", "Y")] := by
    simp [placements, placement_eq_find?, Table.names, toList_looped, List.filterMap_cons]
  have hroots : roots looped = ["A"] := by simp [roots, toList_looped]
  exact order_eq_of_steps toList_looped hroots hplaced 5 (by decide +kernel) (by decide +kernel)

theorem get?_looped_x : looped.get? "X" = some { parents := ["Y", "A"] } := by
  rw [Table.get?_eq_some, toList_looped]
  decide

/-- There the parent before `X` is not the one it is placed under. -/
theorem looped_adopted_after_parent :
    (resolve looped).order = ["A"] ++ "X" :: ["Y"] ∧
      looped.get? "X" = some { parents := ["Y", "A"] } ∧ ["Y", "A"] ≠ [] ∧
      ∃ parent ∈ ["Y", "A"], parent ∈ ["A"] := by
  have hparents : ["Y", "A"] ≠ [] := by decide
  exact ⟨order_looped, get?_looped_x, hparents,
    exists_parent_before order_looped get?_looped_x hparents⟩

end PermScript
